import Oversub.Runtime.Acknowledge
import Oversub.Runtime.Control

/-!
# Oversub.Runtime.Rollback

Publications that fail.  One that its tests refuse at most makes room for a
slot.  One that was accepted and could not be saved is taken back, but only
the bookkeeping of a slot that was there before: what the slot held is gone,
and a slot that is new keeps what it was to take over.
-/

namespace Oversub

open Crash Files Trace

namespace Governor

variable {σ : Type} {K : SnapshotKind σ} {g g' x : Governor} {snapshot copy : σ}

/-- A publication that passes every test, as one that is new. -/
def Renews (K : SnapshotKind σ) (g : Governor) (snapshot : σ) : Prop :=
  (K.validate (digested K snapshot)).isOk = true ∧
    ∃ n, admits K g (digested K snapshot) = .ok ⟨n, false⟩

/-- The slot of a snapshot is there and holds nothing. -/
def Vacant (K : SnapshotKind σ) (g : Governor) (snapshot : σ) : Prop :=
  ∃ slot, g.findSlot (K.header snapshot).domain K.kind = some slot ∧ slot.cleared = slot

/-- The slots and the registrations are what they were, but for the empty slot
a publication makes room for, and the same publication is tested alike. -/
structure RolledBack (K : SnapshotKind σ) (snapshot : σ) (g g' : Governor) : Prop where
  slots : g'.slots = g.slots ∨ g'.slots = (g.ensureSlot (K.header snapshot).domain K.kind).slots
  publishers : g'.state.publishers = g.state.publishers
  retry : admits K g' (digested K snapshot) = admits K g (digested K snapshot)

/-! ## How a publication fails -/

/-- The governor after a publication that failed. -/
inductive Fails (K : SnapshotKind σ) (g : Governor) (snapshot : σ) (g' : Governor) : Prop
  | refused (h : ¬ Renews K g snapshot) (hg : g'.core = g.core ∨
      g'.core = (g.ensureSlot (K.header (digested K snapshot)).domain K.kind).core)
  | unsaved (h : Renews K g snapshot) (hg : g'.core = (g.unpublished K (digested K snapshot)).core)

theorem core_unpublished (h : x.core = (g.published K copy).core) :
    ((x.modifySlot (K.header copy).domain K.kind EvidenceSlot.cleared).restoreRollback
      (g.captureRollback (K.header copy).domain K.kind (K.header copy).provenance.publisher)
      (K.header copy).domain K.kind (K.header copy).provenance.publisher).core =
        (g.unpublished K copy).core := by
  have hcleared : (x.modifySlot (K.header copy).domain K.kind EvidenceSlot.cleared).core =
      ((g.published K copy).modifySlot (K.header copy).domain K.kind EvidenceSlot.cleared).core :=
    congrArg (fun x : Governor => x.modifySlot _ _ _) h
  rw [core_restoreRollback, unpublished, core_restoreRollback, hcleared]

theorem yields_ingest : Yields (ingest K g snapshot) fun r =>
    r.1.status.isOk = false → Fails K g snapshot r.2 := by
  unfold ingest
  dsimp only
  rw [ingestLocked_eq]
  split
  next hv =>
    refine yields_pure fun _ => .refused (fun ⟨hvalid, _⟩ => ?_) (.inl rfl)
    simp [hvalid] at hv
  next hv =>
    cases hp : g.checkPublisher (K.header (digested K snapshot)) with
    | error status =>
        refine yields_pure fun _ => .refused (fun ⟨_, n, hadmits⟩ => ?_) (.inl rfl)
        obtain ⟨r, hr, -⟩ := EarlyFold.bind_eq_ok.mp hadmits
        rw [hp] at hr
        cases hr
    | ok r =>
        have hadmits : admits K g (digested K snapshot) =
            g.checkSlot (g.slotState (K.header (digested K snapshot)).domain K.kind) r
              (K.header (digested K snapshot)) := by
          rw [admits, hp]
          rfl
        dsimp only
        cases hs : g.checkSlot (g.slotState (K.header (digested K snapshot)).domain K.kind) r
          (K.header (digested K snapshot)) with
        | error status =>
            refine yields_pure fun _ => .refused (fun ⟨_, n, hok⟩ => ?_) (.inr rfl)
            rw [hadmits, hs] at hok
            cases hok
        | ok a =>
            rcases checkSlot_eq_ok hs with ⟨rfl, -⟩ | ⟨rfl, -⟩
            · exact yields_pure fun hfailed => nomatch hfailed
            · have hrenews : Renews K g snapshot := ⟨open_of_not hv, _, hadmits.trans hs⟩
              dsimp only
              rw [if_neg Bool.false_ne_true, if_neg Bool.false_ne_true]
              refine yields_persistState.bind fun ⟨status, x⟩ hx => ?_
              dsimp only at hx ⊢
              split
              · exact yields_pure fun hfailed => nomatch hfailed
              · exact yields_pure fun _ => .unsaved hrenews (core_unpublished hx)

/-! ## What is left of it -/

theorem domain_digested (hK : K.Lawful) :
    (K.header (digested K snapshot)).domain = (K.header snapshot).domain := by
  obtain ⟨d, hheader⟩ := hK.header_digested snapshot
  rw [hheader]

/-- The tests of a publication look at the registrations, its slot and the rest
of the governor. -/
theorem admits_congr (hrest : g'.rest = g.rest) (hpublishers : g'.state.publishers = g.state.publishers)
    (hslot : g'.slotState (K.header copy).domain K.kind = g.slotState (K.header copy).domain K.kind) :
    admits K g' copy = admits K g copy := by
  have hregistration : g'.registration = g.registration := by
    funext publisher
    unfold registration
    rw [hpublishers]
  have hchecks : g'.checkPublisher (K.header copy) = g.checkPublisher (K.header copy) := by
    have hopen : g'.isOpen = g.isOpen := rest_congr (·.isOpen) (fun _ => rfl) hrest
    have haccepting : g'.accepting = g.accepting := rest_congr (·.accepting) (fun _ => rfl) hrest
    have hindex : g'.index = g.index := rest_congr (·.index) (fun _ => rfl) hrest
    have hepoch : g'.state.epoch = g.state.epoch := rest_congr (·.state.epoch) (fun _ => rfl) hrest
    simp only [checkPublisher, hopen, haccepting, hindex, hepoch, hregistration]
  have hoptions : g'.options = g.options := rest_congr (·.options) (fun _ => rfl) hrest
  simp only [admits, checkSlot, hchecks, hslot, hoptions]

/-- Rolling back is a matter of the slots alone. -/
theorem rolledBack_of_slots (hrest : g'.rest = g.rest)
    (hslots : g'.slots = g.slots ∨ g'.slots = (g.ensureSlot (K.header snapshot).domain K.kind).slots)
    (hpublishers : g'.state.publishers = g.state.publishers) : RolledBack K snapshot g g' := by
  refine ⟨hslots, hpublishers, admits_congr hrest hpublishers ?_⟩
  rcases hslots with hsame | hroom
  · rw [slotState_eq, slotState_eq, slotOf, slotOf, findSlot_congr hsame]
  · rw [slotState_eq, slotOf, findSlot_congr hroom, ← slotOf, ← slotState_eq, slotState_ensureSlot]

/-- A slot that was taken back holds nothing, under the bookkeeping it had. -/
theorem unpublishing_of_find {slot : EvidenceSlot} {c : Command} (hc : Publication K snapshot c)
    (hfind : g.findSlot (K.header copy).domain K.kind = some slot) :
    unpublishing K g copy slot = slot.cleared := by
  rw [unpublishing, hfind]
  cases hc <;> rfl

/-- A publication that is taken back is rolled back where its slot was there and
held nothing. -/
theorem unpublished_rolledBack_iff {c : Command} (hc : Publication K snapshot c)
    (hg : g'.core = (g.unpublished K (digested K snapshot)).core) :
    RolledBack K snapshot g g' ↔ Vacant K g snapshot := by
  have hK := SnapshotKind.lawful_of_publication hc
  have hdomain : (K.header (digested K snapshot)).domain = (K.header snapshot).domain := domain_digested hK
  have hslots : g'.slots = (g.unpublished K (digested K snapshot)).slots :=
    core_congr (·.slots) (fun _ => rfl) hg
  have hfound : g'.findSlot (K.header snapshot).domain K.kind =
      some (unpublishing K g (digested K snapshot) (g.slotOf (K.header snapshot).domain K.kind)) := by
    rw [findSlot_congr hslots, ← hdomain]
    exact findSlot_unpublished hK
  constructor
  · intro hback
    have hsame : unpublishing K g (digested K snapshot) (g.slotOf (K.header snapshot).domain K.kind) =
        g.slotOf (K.header snapshot).domain K.kind := by
      rcases hback.slots with hsame | hroom
      · rw [findSlot_congr hsame] at hfound
        exact (slotOf_eq hfound).symm
      · rw [findSlot_congr hroom, findSlot_ensureSlot] at hfound
        exact (Option.some.inj hfound).symm
    cases hfind : g.findSlot (K.header snapshot).domain K.kind with
    | some slot =>
        rw [slotOf_eq hfind, unpublishing_of_find hc (by rw [hdomain]; exact hfind)] at hsame
        exact ⟨slot, hfind, hsame⟩
    | none =>
        -- a new slot keeps the generation it was to have
        have hstate := congrArg (·.state.generation) hsame
        rw [unpublishing, hdomain, hfind] at hstate
        have hgeneration : (publishing K g (digested K snapshot)
            (g.slotOf (K.header snapshot).domain K.kind)).state.generation =
              (g.slotOf (K.header snapshot).domain K.kind).state.generation + 1 := by
          rw [publishing, hK.state_store]
          rfl
        exact absurd (hgeneration.symm.trans hstate) (succ_ne _)
  · rintro ⟨slot, hfind, hempty⟩
    have hfind' : g.findSlot (K.header (digested K snapshot)).domain K.kind = some slot := by
      rw [hdomain]
      exact hfind
    refine rolledBack_of_slots ?_ (.inl ?_) ?_
    · exact (core_congr Governor.rest (fun _ => rfl) hg :).trans rest_unpublished
    · rw [hslots, slots_unpublished hK, ensureSlot_of_find hfind']
      exact Table.modify_of_get hfind' ((unpublishing_of_find hc hfind').trans hempty)
    · exact (core_congr (·.state.publishers) (fun _ => rfl) hg :).trans publishers_unpublished

/-- A publication that was refused leaves at most room for its slot. -/
theorem refused_rolledBack (hK : K.Lawful) (hg : g'.core = g.core ∨
    g'.core = (g.ensureSlot (K.header (digested K snapshot)).domain K.kind).core) :
    RolledBack K snapshot g g' := by
  rcases hg with hg | hg
  · refine rolledBack_of_slots ?_ (.inl ?_) ?_
    · exact core_congr Governor.rest (fun _ => rfl) hg
    · exact core_congr (·.slots) (fun _ => rfl) hg
    · exact core_congr (·.state.publishers) (fun _ => rfl) hg
  · rw [domain_digested hK] at hg
    refine rolledBack_of_slots ?_ (.inr ?_) ?_
    · exact (core_congr Governor.rest (fun _ => rfl) hg :).trans rest_ensureSlot
    · exact core_congr (·.slots) (fun _ => rfl) hg
    · have hpublishers := (core_congr (·.state.publishers) (fun _ => rfl) hg :)
      rw [hpublishers, ensureSlot_state]

theorem yields_publication {c : Command} (hc : Publication K snapshot c) :
    Yields (c.perform g) fun r =>
      ∀ o, r.1 = .ingested o → o.status.isOk = false → Fails K g snapshot r.2 := by
  have hreplying : Yields (replying Reply.ingested (ingest K g snapshot)) fun r =>
      ∀ o, r.1 = .ingested o → o.status.isOk = false → Fails K g snapshot r.2 := by
    refine yields_ingest.bind fun r hr => yields_pure fun o ho hbad => ?_
    cases ho
    exact hr hbad
  cases hc with
  | capacity => exact hreplying
  | reservations => exact hreplying
  | admissions => exact hreplying

/-- The slot of the sample publication is not there yet. -/
theorem sample_not_vacant :
    ¬ Vacant capacityKind (staffed (started samplePolicy)) (nthCapacity 1 100) := by
  intro ⟨slot, hfind, _⟩
  have hnone := takenBack_checks.2.1
  rw [domain_digested SnapshotKind.capacityKind_lawful, hfind] at hnone
  cases hnone

/-- A publication before the runtime is opened. -/
theorem perform_ingest_closed (disk : Disk) {snapshot : CapacitySnapshot}
    (hv : (capacityKind.validate (digested capacityKind snapshot)).isOk = true) :
    System.perform (System.boot disk) ⟨.ingestCapacity snapshot, []⟩ =
      (some (.ingested { status := notOpen }), System.boot disk) := by
  have hingest : ingest capacityKind {} snapshot = pure ({ status := notOpen }, {}) := by
    unfold ingest
    dsimp only
    rw [ingestLocked_eq, hv]
    rfl
  have hreturns : Returns ((Command.ingestCapacity snapshot).perform {}) ⟨disk, []⟩
      (.ingested { status := notOpen }, {}) ⟨disk, []⟩ := by
    refine returns_replying ?_
    rw [ingestCapacity, hingest]
    exact returns_pure
  exact System.perform_of_returns hreturns

end Governor

end Oversub
