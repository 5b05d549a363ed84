import Oversub.Runtime.Boots

/-!
# Oversub.Runtime.Stamps

What a call does apart from its effect on the core: a save leaves in the state
file the very state the governor goes on with, the journal and the history are
for evaluations alone, and a registration changes in one of a few ways.
-/

namespace Oversub

open Crash Files

/-- The calls that write to the journal. -/
def Command.journals : Command → Bool
  | .evaluate .. => true
  | _ => false

/-- The reply reports success. -/
def Reply.isOk : Reply → Bool
  | .status s => s.isOk
  | .ingested o => o.status.isOk
  | .decided (.ok _) | .revalidated (.ok _) => true
  | .decided (.error _) | .revalidated (.error _) => false

namespace LogicalClock

variable {c c' : LogicalClock} {tick : UInt64}

theorem le_observe : c.tick ≤ (c.observe tick).tick := by
  unfold observe
  split
  · exact UInt64.le_refl _
  next h => exact UInt64.le_of_lt (UInt64.not_le.mp h)

/-- A tick that is not in the past is taken over. -/
theorem tick_observe (h : c.tick ≤ tick) : (c.observe tick).tick = tick := by
  unfold observe
  split
  next hle => exact UInt64.le_antisymm h hle
  · rfl

theorem le_of_advance {delta : UInt64} (h : c.advance delta = some c') : c.tick ≤ c'.tick := by
  obtain ⟨tick, htick, rfl⟩ := Option.map_eq_some_iff.mp h
  have hsum := addChecked_toNat c.tick delta
  rw [htick, Option.map_some] at hsum
  rw [UInt64.le_iff_toNat_le, (Arith.addChecked_eq_some.mp hsum.symm).2]
  exact Nat.le_add_right _ _

end LogicalClock

namespace Governor

variable {g g' : Governor} {disk disk' : Disk} {force : Bool}

/-! ## The slot of a key -/

@[simp] theorem slotKey_inj {domain domain' : OversubscriptionDomainId} {kind kind' : EvidenceKind} :
    slotKey domain kind = slotKey domain' kind' ↔ domain = domain' ∧ kind = kind' := by
  have hcode : kind.code = kind'.code ↔ kind = kind' := by
    cases kind <;> cases kind' <;> decide
  rw [slotKey, slotKey, Prod.mk.injEq, hcode]

section

variable {domain domain' : OversubscriptionDomainId} {kind kind' : EvidenceKind}

/-- The slot `ensure_slot` makes. -/
def newSlot (domain : OversubscriptionDomainId) (kind : EvidenceKind) : EvidenceSlot where
  state := { domain, kind := kind.code }

/-- The slot of a key, a new one where there is none. -/
def slotOf (g : Governor) (domain : OversubscriptionDomainId) (kind : EvidenceKind) : EvidenceSlot :=
  (g.findSlot domain kind).getD (newSlot domain kind)

theorem slotState_eq : g.slotState domain kind = (g.slotOf domain kind).state := by
  unfold slotState slotOf
  cases g.findSlot domain kind <;> rfl

theorem key_slotOf : (g.slotOf domain kind).key = slotKey domain kind := by
  unfold slotOf
  cases hfind : g.findSlot domain kind with
  | none => rfl
  | some slot => exact Table.key_of_get hfind

@[simp] theorem findSlot_ensureSlot :
    (g.ensureSlot domain kind).findSlot domain kind = some (g.slotOf domain kind) := by
  unfold ensureSlot slotOf
  cases hfind : g.findSlot domain kind with
  | none => exact Table.get_append_new hfind rfl
  | some slot => exact hfind

theorem findSlot_ensureSlot_ne (h : slotKey domain' kind' ≠ slotKey domain kind) :
    (g.ensureSlot domain kind).findSlot domain' kind' = g.findSlot domain' kind' := by
  unfold ensureSlot
  cases hfind : g.findSlot domain kind with
  | none => exact Table.get_append_ne h.symm
  | some slot => rfl

theorem slotState_ensureSlot :
    (g.ensureSlot domain kind).slotState domain' kind' = g.slotState domain' kind' := by
  rw [slotState_eq, slotState_eq]
  by_cases h : slotKey domain' kind' = slotKey domain kind
  · obtain ⟨rfl, rfl⟩ := slotKey_inj.mp h
    rw [slotOf, findSlot_ensureSlot, Option.getD_some]
  · rw [slotOf, slotOf, findSlot_ensureSlot_ne h]

end

/-! ## What a call leaves alone -/

/-- The history, and the store while the runtime is open. -/
structure Quiet (g g' : Governor) : Prop where
  store : g'.isOpen = true → g'.store = g.store
  audit : g'.state.audit = g.state.audit
  clock : g.clock.tick ≤ g'.clock.tick

theorem quiet_refl : Quiet g g := ⟨fun _ => rfl, rfl, UInt64.le_refl _⟩

theorem Quiet.trans {g'' : Governor} (h : Quiet g g') (h' : Quiet g' g'') (hopen : g'.isOpen = true) :
    Quiet g g'' :=
  ⟨fun hopen'' => (h'.store hopen'').trans (h.store hopen), h'.audit.trans h.audit,
    UInt64.le_trans h.clock h'.clock⟩

/-- Only the store, the history and the clock count. -/
theorem Quiet.congr {x : Governor} (h : Quiet g x) (hopen : g'.isOpen = x.isOpen)
    (hstore : g'.store = x.store) (haudit : g'.state.audit = x.state.audit) (hclock : g'.clock = x.clock) :
    Quiet g g' :=
  ⟨fun hopen' => hstore.trans (h.store (hopen ▸ hopen')), haudit.trans h.audit, hclock ▸ h.clock⟩

theorem quiet_observing {tick : UInt64} : Quiet g (g.observing tick) := by
  unfold observing
  split
  · exact quiet_refl
  · exact ⟨fun _ => rfl, rfl, LogicalClock.le_observe⟩

/-- All that is durable at once, in both alike. -/
structure SameBooks (g g' : Governor) : Prop where
  incarnation : g'.state.incarnation = g.state.incarnation
  epoch : g'.state.epoch = g.state.epoch
  policy : g'.state.policy = g.state.policy
  publishers : g'.state.publishers = g.state.publishers
  slots : ∀ domain kind, g'.slotState domain kind = g.slotState domain kind

theorem sameBooks_of_core (h : g'.core = g.core) : SameBooks g g' where
  incarnation := core_congr (·.state.incarnation) (fun _ => rfl) h
  epoch := core_congr (·.state.epoch) (fun _ => rfl) h
  policy := core_congr (·.state.policy) (fun _ => rfl) h
  publishers := core_congr (·.state.publishers) (fun _ => rfl) h
  slots domain kind := core_congr (fun g => g.slotState domain kind) (fun _ => rfl) h

/-! ## Registrations -/

/-- A registration that is admitted again. -/
def readmitting (incarnation : IncarnationId) (epoch : FabricEpoch) (tick : UInt64)
    (r : PublisherRegistration) : PublisherRegistration :=
  { r with
    incarnation, epoch
    fenced := false
    fenceReason := ReasonCode.none.code
    lastSequence := 0
    registeredTick := tick }

/-- What a call makes of the table of publishers. -/
inductive Registers (g : Governor) : Command → Reply → List PublisherRegistration → Prop
  | same {c : Command} {reply : Reply} : Registers g c reply g.state.publishers
  | added {publisher : PublisherId} {incarnation : IncarnationId} {epoch : FabricEpoch} {tick now : UInt64}
      {reply : Reply} (hnew : g.registration publisher = none) (hepoch : epoch.value = g.state.epoch.value) :
      Registers g (.registerPublisher publisher incarnation epoch tick) reply
        (g.state.publishers ++ [{ publisher, incarnation, epoch, registeredTick := now }])
  | readmitted {publisher : PublisherId} {incarnation : IncarnationId} {epoch : FabricEpoch}
      {tick now : UInt64} {c : Command} {reply : Reply} {r : PublisherRegistration}
      (hold : g.registration publisher = some r) (haccepting : g.accepting = true)
      (hc : c = .registerPublisher publisher incarnation epoch tick ∧ r.incarnation = incarnation ∧
          r.fenced = true ∨
        c = .adoptIncarnation publisher incarnation epoch tick ∧
          ¬ (r.incarnation = incarnation ∧ r.fenced = false ∧ r.epoch.value = epoch.value))
      (hepoch : epoch.value = g.state.epoch.value) :
      Registers g c reply
        (Table.modify (·.publisher) publisher (readmitting incarnation epoch now) g.state.publishers)
  | fenced {publisher : PublisherId} {reason : Code ReasonCode} {reply : Reply} :
      Registers g (.fencePublisher publisher reason) reply
        (Table.modify (·.publisher) publisher (fun r => { r with fenced := true, fenceReason := reason })
          g.state.publishers)
  | outdated {next : FabricEpoch} {reply : Reply} :
      Registers g (.advanceEpoch next) reply (g.state.publishers.map fun r =>
        { r with fenced := true, fenceReason := ReasonCode.epochNotAdvanced.code })
  | sequenced {σ : Type} {K : SnapshotKind σ} {snapshot : σ} {c : Command} {reply : Reply}
      {r : PublisherRegistration} (hc : Publication K snapshot c)
      (hr : Registered g (K.header (digested K snapshot)) r) :
      Registers g c reply
        (Table.modify (·.publisher) (K.header (digested K snapshot)).provenance.publisher
          (fun r => { r with lastSequence := (K.header (digested K snapshot)).provenance.sequence })
          g.state.publishers)

end Governor

end Oversub
