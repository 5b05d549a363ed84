import Oversub.Runtime.Slots

/-!
# Oversub.Runtime.Live

What holds of every runtime that is open, whatever its calls were answered
with: it governs by an accepted policy, and a slot with content holds a
snapshot of its own domain and kind, accepted in the current epoch under the
generation of the slot.
-/

namespace Oversub

namespace Governor

variable {σ : Type} {K : SnapshotKind σ} {g g' : Governor} {snapshot copy : σ} {slot : EvidenceSlot}
  {epoch : FabricEpoch}

/-! ## Sound slots -/

/-- The slot holds an accepted snapshot of a kind, from an epoch. -/
def HoldsKind (K : SnapshotKind σ) (epoch : FabricEpoch) (slot : EvidenceSlot) : Prop :=
  ∃ held, K.content slot = some held ∧ slot.key = slotKey (K.header held).domain K.kind ∧
    (K.validate held).isOk = true ∧ (K.header held).epoch = epoch ∧
    (K.header held).generation = slot.state.generation

/-- A slot with content holds a snapshot of its own kind. -/
def Sound (epoch : FabricEpoch) (slot : EvidenceSlot) : Prop :=
  slot.hasContent = true → HoldsKind capacityKind epoch slot ∨
    HoldsKind reservationKind epoch slot ∨ HoldsKind admissionKind epoch slot

def SlotsSound (g : Governor) : Prop := ∀ slot ∈ g.slots, Sound g.state.epoch slot

theorem sound_of_empty (h : slot.hasContent = false) : Sound epoch slot := by
  intro hcontent
  rw [h] at hcontent
  cases hcontent

theorem slotsSound_of_empty (h : ∀ slot ∈ g.slots, slot.hasContent = false) : g.SlotsSound :=
  fun slot hslot => sound_of_empty (h slot hslot)

theorem slotsSound_congr (h : g'.core = g.core) : g'.SlotsSound ↔ g.SlotsSound :=
  iff_of_eq (core_congr SlotsSound (fun _ => rfl) h)

theorem sound_of_publication {c : Command} (hc : Publication K snapshot c)
    (h : HoldsKind K epoch slot) : Sound epoch slot := by
  intro _
  cases hc with
  | capacity => exact .inl h
  | reservations => exact .inr (.inl h)
  | admissions => exact .inr (.inr h)

/-- A flag on the bookkeeping takes nothing from the evidence. -/
theorem Sound.flagged (h : Sound epoch slot) :
    Sound epoch { slot with state := { slot.state with revalidationRequired := true } } := h

/-! ## Updates of the slots -/

theorem slotsSound_dropped (h : g'.slots = g.dropEvidenceContent.slots) : g'.SlotsSound := by
  refine slotsSound_of_empty fun slot hslot => ?_
  obtain ⟨old, _, rfl⟩ := List.mem_map.mp (h ▸ hslot)
  rfl

theorem slotsSound_flagPublisher {publisher : PublisherId} (h : g.SlotsSound) :
    (g.flagPublisher publisher).SlotsSound := by
  intro slot hslot
  obtain ⟨old, hold, rfl⟩ := List.mem_map.mp hslot
  dsimp only
  split
  · exact (h old hold).flagged
  · exact h old hold

theorem slotsSound_ensureSlot {domain : OversubscriptionDomainId} {kind : EvidenceKind}
    (h : g.SlotsSound) : (g.ensureSlot domain kind).SlotsSound := by
  intro slot hslot
  rw [rest_congr (·.state.epoch) (fun _ => rfl) rest_ensureSlot]
  rcases mem_ensureSlot hslot with hold | rfl
  · exact h slot hold
  · exact sound_of_empty rfl

/-- A publication leaves its slot with the snapshot in it. -/
theorem holdsKind_publishing (hK : K.Lawful) (hp : Passes K g copy) :
    HoldsKind K g.state.epoch (publishing K g copy (g.slotOf (K.header copy).domain K.kind)) := by
  obtain ⟨d, hheader⟩ := hK.header_assigned
    ((g.slotState (K.header copy).domain K.kind).generation + 1) copy
  refine ⟨_, hK.content_store _ _, ?_, hK.validate_assigned _ _ hp.valid, ?_, ?_⟩
  · rw [hheader]
    exact (key_store hK).trans key_slotOf
  · rw [hheader]
    exact hp.epoch
  · rw [hheader, publishing, hK.state_store, slotState_eq]
    rfl

theorem slotsSound_published {c : Command} (hc : Publication K snapshot c) (hp : Passes K g copy)
    (h : g.SlotsSound) : (g.published K copy).SlotsSound := by
  have hK := SnapshotKind.lawful_of_publication hc
  intro slot hslot
  rw [rest_congr (·.state.epoch) (fun _ => rfl) rest_published]
  rcases mem_published hslot with hold | hempty | rfl
  · exact h slot hold
  · exact sound_of_empty hempty
  · exact sound_of_publication hc (holdsKind_publishing hK hp)

theorem slotsSound_unpublished (hK : K.Lawful) (h : g.SlotsSound) :
    (g.unpublished K copy).SlotsSound := by
  intro slot hslot
  rw [rest_congr (·.state.epoch) (fun _ => rfl) rest_unpublished]
  rcases mem_unpublished hK hslot with hold | hempty
  · exact h slot hold
  · exact sound_of_empty hempty

/-! ## Sound slots over a call -/

/-- **Sound slots** stay sound over every call but an `open` that fails. -/
theorem Effect.slotsSound {c : Command} {reply : Reply} (h : Effect g c reply g')
    (hg : g.SlotsSound) :
    g'.SlotsSound ∨ (g.isOpen = false ∧ g'.isOpen = false ∧ g'.slots = g.slots) := by
  cases h with
  | kept _ hcore => exact .inl ((slotsSound_congr hcore).mpr hg)
  | opened h =>
      cases h with
      | live _ hfresh => exact .inl (slotsSound_of_empty hfresh.slots)
      | refused => exact .inl hg
      | failed hclosed hclosed' hslots =>
          rcases hslots with hslots | hempty
          · exact .inr ⟨hclosed, hclosed', hslots⟩
          · exact .inl (slotsSound_of_empty hempty)
  | stopped _ hcore => exact .inl ((slotsSound_congr hcore).mpr hg)
  | installed _ _ hcore => exact .inl ((slotsSound_congr hcore).mpr (slotsSound_dropped rfl))
  | advanced _ hcore => exact .inl ((slotsSound_congr hcore).mpr (slotsSound_dropped rfl))
  | registered _ hcore => exact .inl ((slotsSound_congr hcore).mpr hg)
  | adopted hcore => exact .inl ((slotsSound_congr hcore).mpr (slotsSound_flagPublisher hg))
  | ingested hc h =>
      cases h with
      | refused _ hcore =>
          rcases hcore with hcore | hcore
          · exact .inl ((slotsSound_congr hcore).mpr hg)
          · exact .inl ((slotsSound_congr hcore).mpr (slotsSound_ensureSlot hg))
      | duplicated _ _ _ hcore =>
          exact .inl ((slotsSound_congr hcore).mpr (slotsSound_ensureSlot hg))
      | accepted hp _ _ _ hcore =>
          exact .inl ((slotsSound_congr hcore).mpr (slotsSound_published hc hp hg))
      | unsaved _ _ _ hcore =>
          exact .inl ((slotsSound_congr hcore).mpr
            (slotsSound_unpublished (SnapshotKind.lawful_of_publication hc) hg))
  | evaluated h =>
      cases h with
      | refused hcore => exact .inl ((slotsSound_congr hcore).mpr hg)
      | recorded _ _ _ _ hcore => exact .inl ((slotsSound_congr hcore).mpr hg)

/-! ## Open runtimes -/

/-- A runtime that is open. -/
structure Live (g : Governor) : Prop where
  policy : (validatePolicy g.state.policy).isOk = true
  index : g.index = .rebuild g.state.policy
  slots : g.SlotsSound

theorem live_congr (h : g'.core = g.core) : g'.Live ↔ g.Live := by
  have hcore : ∀ g : Governor, g.core.Live = g.Live := fun g =>
    propext ⟨fun h => ⟨h.1, h.2, h.3⟩, fun h => ⟨h.1, h.2, h.3⟩⟩
  exact iff_of_eq (core_congr Live hcore h)

/-- A runtime under the same policy is as live as its slots are sound. -/
theorem Live.of_rest (h : g.Live) (hrest : g'.rest = g.rest) (hslots : g'.SlotsSound) : g'.Live where
  policy := (rest_congr (·.state.policy) (fun _ => rfl) hrest).symm ▸ h.policy
  index := by
    rw [rest_congr (·.index) (fun _ => rfl) hrest, h.index,
      rest_congr (·.state.policy) (fun _ => rfl) hrest]
  slots := hslots

/-- **Open runtimes** are live. -/
theorem Effect.live {c : Command} {reply : Reply} (h : Effect g c reply g')
    (hg : g.isOpen = true → g.Live) (hopen : g'.isOpen = true) : g'.Live := by
  have hopened {x : Governor} (hcore : g'.core = x.core) : x.isOpen = true :=
    (core_congr (·.isOpen) (fun _ => rfl) hcore).symm.trans hopen
  have hsound (hg' : g.isOpen = true) : g'.SlotsSound :=
    (h.slotsSound (hg hg').slots).resolve_right fun h => Bool.noConfusion (h.1.symm.trans hg')
  cases h with
  | kept _ hcore => exact (live_congr hcore).mpr (hg (hopened hcore :))
  | opened h =>
      cases h with
      | live _ hfresh => exact ⟨hfresh.policy, hfresh.index, slotsSound_of_empty hfresh.slots⟩
      | refused => exact hg hopen
      | failed _ hclosed => exact absurd hopen (by simp [hclosed])
  | stopped hopen' hcore =>
      have hlive := hg (hopen' (hopened hcore :))
      exact (live_congr hcore).mpr ⟨hlive.policy, hlive.index, hlive.slots⟩
  | installed _ hpolicy hcore =>
      exact (live_congr hcore).mpr
        ⟨hpolicy, rfl, (slotsSound_congr hcore).mp (hsound (hopened hcore :))⟩
  | advanced _ hcore =>
      have hlive := hg (hopened hcore :)
      exact (live_congr hcore).mpr
        ⟨hlive.policy, hlive.index, (slotsSound_congr hcore).mp (hsound (hopened hcore :))⟩
  | registered _ hcore =>
      have hlive := hg (hopened hcore :)
      exact (live_congr hcore).mpr ⟨hlive.policy, hlive.index, hlive.slots⟩
  | adopted hcore =>
      have hlive := hg (hopened hcore :)
      exact (live_congr hcore).mpr
        ⟨hlive.policy, hlive.index, (slotsSound_congr hcore).mp (hsound (hopened hcore :))⟩
  | ingested _ h =>
      have hrest : g'.rest = g.rest := h.rest
      exact (hg ((rest_congr (·.isOpen) (fun _ => rfl) hrest).symm.trans hopen)).of_rest hrest
        (hsound ((rest_congr (·.isOpen) (fun _ => rfl) hrest).symm.trans hopen))
  | evaluated h =>
      cases h with
      | refused hcore => exact (live_congr hcore).mpr (hg (hopened hcore :))
      | recorded _ _ _ _ hcore =>
          have hlive := hg (hopened hcore :)
          exact (live_congr hcore).mpr ⟨hlive.policy, hlive.index, hlive.slots⟩

end Governor

/-- In every run, a runtime that is open is live. -/
theorem live_of_run {disk : Disk} {ts : List Step} {s : System} (h : SessionRun disk ts s)
    (hopen : s.governor.isOpen = true) : s.governor.Live := by
  have hinv : s.governor.isOpen = true → s.governor.Live := by
    refine h.invariant (I := fun s => s.governor.isOpen = true → s.governor.Live) nofun ?_
    intro s c hs hopen
    rcases s.perform_cases c with ⟨reply, _, heffect⟩ | ⟨_, hboot⟩
    · exact heffect.live hs hopen
    · rw [hboot] at hopen
      cases hopen
  exact hinv hopen

end Oversub
