import Oversub.Runtime.Revalidate

/-!
# Oversub.Runtime.Clock

Logical time over calls.  Whatever a call observes or reports, the clock does
not go back while the runtime is open, and a decision is made at the tick the
clock stands at once it is recorded.
-/

namespace Oversub

open Crash Files Trace

theorem le_max_right_u64 (a b : UInt64) : b ≤ max a b := by
  show b ≤ if a ≤ b then b else a
  split
  · exact UInt64.le_refl _
  next h => exact UInt64.le_of_lt (UInt64.not_le.mp h)

namespace Governor

variable {g : Governor} {force : Bool} {record : AuditRecord} {tick : UInt64}

/-! ## Writes keep the clock -/

theorem clock_saveState : Yields g.saveState fun r => r.2.clock = g.clock := by
  refine yields_true.bind fun status _ => yields_pure ?_
  split <;> rfl

theorem clock_persistState : Yields (g.persistState force) fun r => r.2.clock = g.clock := by
  unfold persistState
  split
  · split
    · exact clock_saveState
    · exact yields_pure rfl
  · split
    · exact yields_pure rfl
    · split
      · exact yields_pure rfl
      · exact clock_saveState

theorem clock_tryAppend : Yields (g.tryAppend record) fun r => r.2.clock = g.clock :=
  yields_true.bind fun _ _ => yields_pure rfl

theorem clock_compactJournal : Yields g.compactJournal fun r => r.2.clock = g.clock := by
  refine yields_true.bind fun ⟨status, store⟩ _ => ?_
  dsimp only
  split <;> exact yields_pure rfl

theorem clock_appendJournal : Yields (g.appendJournal record) fun r => r.2.clock = g.clock := by
  refine clock_tryAppend.bind fun ⟨status, g₁⟩ h₁ => ?_
  dsimp only at h₁ ⊢
  split
  · refine clock_compactJournal.bind fun ⟨status, g₂⟩ h₂ => ?_
    dsimp only at h₂ ⊢
    split
    · refine clock_tryAppend.bind fun ⟨status, g₃⟩ h₃ => yields_pure ?_
      dsimp only at h₃ ⊢
      split <;> exact h₃.trans (h₂.trans h₁)
    · exact yields_pure (h₂.trans h₁)
  · refine yields_pure ?_
    dsimp only
    split <;> exact h₁

/-! ## Calls -/

/-- Whatever is returned, the clock has not gone back. -/
def Onward {α : Type} (g : Governor) (p : Storage (α × Governor)) : Prop :=
  Yields p fun r => g.clock.tick ≤ r.2.clock.tick

section

variable {α : Type} {g' : Governor} {a : α}

theorem onward_pure (h : g.clock.tick ≤ g'.clock.tick) : Onward g (pure (a, g')) := yields_pure h

theorem onward_refl : Onward g (pure (a, g)) := yields_pure (UInt64.le_refl _)

theorem onward_persistState (h : g.clock.tick ≤ g'.clock.tick) :
    Onward g (g'.persistState force) :=
  clock_persistState.mono fun r hr => by rwa [hr]

theorem clock_observing : g.clock.tick ≤ (g.observing tick).clock.tick := by
  unfold observing
  split
  · exact UInt64.le_refl _
  · exact LogicalClock.le_observe

end

theorem onward_close : Onward g g.close := by
  have hshutdown : Onward g g.shutdown := by
    unfold shutdown
    dsimp only
    split
    · exact onward_pure (UInt64.le_refl _)
    · exact onward_persistState (UInt64.le_refl _)
  refine hshutdown.bind fun ⟨status, g'⟩ h => yields_pure ?_
  dsimp only
  split <;> exact h

theorem onward_installPolicy {policy : OversubscriptionPolicy} :
    Onward g (g.installPolicy policy tick) := by
  unfold installPolicy
  dsimp only
  split
  · exact onward_refl
  split
  · exact onward_refl
  split
  · exact onward_pure clock_observing
  split
  · exact onward_pure clock_observing
  split
  · exact onward_pure clock_observing
  · exact onward_persistState clock_observing

theorem onward_registerPublisher {publisher : PublisherId} {incarnation : IncarnationId}
    {epoch : FabricEpoch} : Onward g (g.registerPublisher publisher incarnation epoch tick) := by
  unfold registerPublisher
  dsimp only
  split
  · exact onward_refl
  split
  · exact onward_refl
  split
  · exact onward_refl
  split
  · exact onward_refl
  split
  · split
    · split
      · exact onward_persistState clock_observing
      · exact onward_pure clock_observing
    · exact onward_pure clock_observing
  · split
    · exact onward_pure clock_observing
    · exact onward_persistState clock_observing

theorem onward_adoptIncarnation {publisher : PublisherId} {incarnation : IncarnationId}
    {epoch : FabricEpoch} : Onward g (g.adoptIncarnation publisher incarnation epoch tick) := by
  unfold adoptIncarnation
  dsimp only
  split
  · exact onward_refl
  split
  · exact onward_refl
  split
  · exact onward_refl
  split
  · exact onward_refl
  split
  · exact onward_pure clock_observing
  · split
    · exact onward_pure clock_observing
    · exact onward_persistState clock_observing

theorem onward_fencePublisher {publisher : PublisherId} {reason : Code ReasonCode} :
    Onward g (g.fencePublisher publisher reason) := by
  unfold fencePublisher
  split
  · exact onward_refl
  split
  · exact onward_refl
  · exact onward_persistState (UInt64.le_refl _)

theorem onward_advanceTick {delta : UInt64} : Onward g (g.advanceTick delta) := by
  unfold advanceTick
  split
  · exact onward_refl
  split
  · exact onward_refl
  next clock hclock => exact onward_pure (LogicalClock.le_of_advance hclock)

theorem onward_advanceEpoch {next : FabricEpoch} : Onward g (g.advanceEpoch next) := by
  unfold advanceEpoch
  split
  · exact onward_refl
  split
  · exact onward_refl
  · exact onward_persistState (UInt64.le_refl _)

theorem onward_save : Onward g g.save := by
  unfold save
  split
  · exact onward_refl
  · exact onward_persistState (UInt64.le_refl _)

section

variable {σ : Type} {K : SnapshotKind σ} {snapshot : σ}

theorem clock_ensureSlot {domain : OversubscriptionDomainId} {kind : EvidenceKind} :
    (g.ensureSlot domain kind).clock = g.clock := by
  rw [ensureSlot_eq]

theorem clock_restoreRollback {rollback : IngestRollback} {domain : OversubscriptionDomainId}
    {kind : EvidenceKind} {publisher : PublisherId} :
    (g.restoreRollback rollback domain kind publisher).clock = g.clock := by
  obtain ⟨slot, sequence⟩ := rollback
  cases slot with
  | none => cases sequence <;> rfl
  | some state => cases sequence <;> exact clock_ensureSlot

theorem onward_ingest : Onward g (ingest K g snapshot) := by
  unfold ingest
  dsimp only
  rw [ingestLocked_eq]
  split
  · exact onward_refl
  · cases g.checkPublisher (K.header (digested K snapshot)) with
    | error status => exact onward_refl
    | ok r =>
        dsimp only
        cases g.checkSlot (g.slotState (K.header (digested K snapshot)).domain K.kind) r
          (K.header (digested K snapshot)) with
        | error status => exact onward_pure (UInt64.le_of_eq (by rw [clock_ensureSlot]))
        | ok accepted =>
            dsimp only
            cases accepted.duplicate with
            | true => exact onward_pure (UInt64.le_of_eq (by simp [clock_ensureSlot]))
            | false =>
                rw [if_neg Bool.false_ne_true, if_neg Bool.false_ne_true]
                refine clock_persistState.bind fun ⟨status, g'⟩ h => ?_
                have hclock : g'.clock = g.clock := by
                  refine h.trans ?_
                  refine (clock_ensureSlot (g := g.bookkept K.kind _)).trans ?_
                  exact clock_ensureSlot
                dsimp only
                split
                · exact yields_pure (UInt64.le_of_eq (by rw [hclock]))
                · refine yields_pure (UInt64.le_of_eq ?_)
                  rw [clock_restoreRollback]
                  exact congrArg LogicalClock.tick hclock.symm

end

/-- An answer to an evaluation at a tick: nothing has happened, or the clock
stands at the tick, which is that of the decision. -/
def Timely (tick : UInt64) (g : Governor) (r : Except Status Decision × Governor) : Prop :=
  (r.2 = g ∨ r.2.clock.tick = tick) ∧ ∀ d, r.1 = .ok d → r.2.clock.tick = d.issuedTick

theorem timely_error {g' : Governor} {status : Status} (h : g' = g ∨ g'.clock.tick = tick) :
    Timely tick g (.error status, g') := ⟨h, fun _ hd => by cases hd⟩

theorem Timely.le {r : Except Status Decision × Governor} (h : Timely tick g r)
    (htick : g.clock.tick ≤ tick) : g.clock.tick ≤ r.2.clock.tick := by
  rcases h.1 with heq | heq
  · rw [heq]
    exact UInt64.le_refl _
  · rwa [heq]

theorem issuedTick_rule {order : MapOrder} {domain : OversubscriptionDomainId} {wall : UInt64} :
    (g.rule order domain tick wall).decision.issuedTick = tick := rfl

/-- An evaluation takes the clock to the tick of its decision. -/
theorem clock_evaluate {order : MapOrder} {wall : UInt64} {request : EvaluationRequest} :
    Yields (g.evaluate order wall request) (Timely (max request.tick g.clock.tick) g) := by
  have hobserve : (g.clock.observe (max request.tick g.clock.tick)).tick =
      max request.tick g.clock.tick := LogicalClock.tick_observe (le_max_right_u64 _ _)
  unfold evaluate evaluateLocked
  split
  · exact yields_pure (timely_error (.inl rfl))
  split
  · exact yields_pure (timely_error (.inl rfl))
  split
  · exact yields_pure (timely_error (.inl rfl))
  dsimp only
  have htick : (rule order { g with clock := g.clock.observe (max request.tick g.clock.tick) }
      request.domain (max request.tick g.clock.tick) wall).decision.issuedTick =
        max request.tick g.clock.tick := issuedTick_rule
  generalize rule order _ request.domain _ wall = r at htick ⊢
  split
  · exact yields_pure (timely_error (.inr hobserve))
  split
  · exact yields_pure (timely_error (.inr hobserve))
  · refine clock_appendJournal.bind fun ⟨status, g₁⟩ h₁ => ?_
    replace h₁ : g₁.clock = g.clock.observe (max request.tick g.clock.tick) := h₁
    dsimp only
    split
    · exact yields_pure (timely_error (.inr (by rw [h₁, hobserve])))
    · refine clock_persistState.bind fun ⟨status, g₂⟩ h₂ => yields_pure ?_
      replace h₂ : g₂.clock.tick = max request.tick g.clock.tick :=
        (congrArg LogicalClock.tick (h₂.trans h₁)).trans hobserve
      dsimp only
      split
      · refine ⟨.inr h₂, fun d hd => ?_⟩
        obtain rfl := Except.ok.inj hd
        exact h₂.trans htick.symm
      · exact timely_error (.inr h₂)

/-- **The clock** does not go back over a call. -/
theorem onward_perform (c : Command) (hc : c.opens = false) : Onward g (c.perform g) := by
  have hreplying {α : Type} {reply : α → Reply} {p : Storage (α × Governor)} (h : Onward g p) :
      Onward g (replying reply p) := h.bind fun r hr => yields_pure hr
  cases c with
  | openRuntime => cases hc
  | close => exact hreplying onward_close
  | shutdown =>
      refine hreplying ?_
      unfold shutdown
      dsimp only
      split
      · exact onward_pure (UInt64.le_refl _)
      · exact onward_persistState (UInt64.le_refl _)
  | installPolicy => exact hreplying onward_installPolicy
  | advanceEpoch => exact hreplying onward_advanceEpoch
  | advanceTick => exact hreplying onward_advanceTick
  | save => exact hreplying onward_save
  | registerPublisher => exact hreplying onward_registerPublisher
  | adoptIncarnation => exact hreplying onward_adoptIncarnation
  | fencePublisher => exact hreplying onward_fencePublisher
  | ingestCapacity => exact hreplying onward_ingest
  | ingestReservations => exact hreplying onward_ingest
  | ingestAdmissions => exact hreplying onward_ingest
  | evaluate => exact hreplying (clock_evaluate.mono fun _ h => h.le (le_max_right_u64 _ _))
  | revalidate => exact onward_refl
  | crash => exact fun _ => trivial

end Governor

/-- The clock does not go back inside a session. -/
theorem clock_step {s : System} {c : System.Call} (h : ¬ Step.Reopens ⟨s, c⟩)
    (hopen : (s.step c).governor.isOpen = true) :
    s.governor.clock.tick ≤ (s.step c).governor.clock.tick := by
  cases hc : c.command.opens with
  | true =>
      rw [System.step_same h hopen hc]
      exact UInt64.le_refl _
  | false =>
      obtain ⟨reply, hreply, _⟩ := System.effect_of_open hopen
      obtain ⟨governor, w, hp, hs⟩ := System.perform_eq_some hreply
      rw [hs]
      exact (Governor.onward_perform c.command hc _).returned hp

/-- The clock does not go back in a session. -/
theorem clock_of_run {a s : System} {us : List Step} (hrun : Run System.step a us s)
    (hsession : ∀ t ∈ us, ¬ t.Reopens) (hopen : s.governor.isOpen = true) :
    a.governor.clock.tick ≤ s.governor.clock.tick := by
  induction hrun with
  | nil => exact UInt64.le_refl _
  | @snoc us t _ c ih =>
      rw [List.forall_mem_append, List.forall_mem_singleton] at hsession
      have hstep := System.inSession hsession.2 hopen
      exact UInt64.le_trans (ih hsession.1 hstep.wasOpen) (clock_step hsession.2 hopen)

end Oversub
