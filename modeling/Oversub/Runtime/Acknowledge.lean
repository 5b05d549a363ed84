import Oversub.Runtime.Room

/-!
# Oversub.Runtime.Acknowledge

What an acknowledged publication leaves in its slot.

A publication that is accepted as new is live afterwards.  A redelivery is
recognised by the durable bookkeeping alone, which outlives the content of the
slot: it is live exactly when its evidence still is.
-/

namespace Oversub

namespace Governor

variable {σ : Type} {K : SnapshotKind σ} {g g' : Governor} {snapshot copy : σ} {generation : UInt64}

/-- The slot of a snapshot holds it, under a generation and the digest that
goes with it. -/
def Holds (K : SnapshotKind σ) (g : Governor) (snapshot : σ) (generation : UInt64) : Prop :=
  ∃ slot, g.findSlot (K.header snapshot).domain K.kind = some slot ∧ slot.hasContent = true ∧
    slot.state.generation = generation ∧
    ∃ d, K.content slot = some (K.withPayloadDigest d (K.withGeneration generation snapshot))

/-- The generation the slot of a snapshot is at. -/
def generationOf (K : SnapshotKind σ) (g : Governor) (snapshot : σ) : UInt64 :=
  (g.slotState (K.header snapshot).domain K.kind).generation

/-- The slot has seen the evidence of a snapshot before, going by its evidence
id or its generation. -/
def Redelivers (K : SnapshotKind σ) (g : Governor) (snapshot : σ) : Prop :=
  Names (g.slotState (K.header snapshot).domain K.kind) (K.header snapshot)

theorem holds_congr (h : g'.core = g.core) : Holds K g' snapshot generation ↔
    Holds K g snapshot generation :=
  iff_of_eq (core_congr (fun g => Holds K g snapshot generation) (fun _ => rfl) h)

/-- A slot that names some evidence exists. -/
theorem findSlot_of_names {h : SnapshotHeader} {domain : OversubscriptionDomainId}
    {kind : EvidenceKind} (hnames : Names (g.slotState domain kind) h) :
    ∃ slot, g.findSlot domain kind = some slot := by
  cases hfind : g.findSlot domain kind with
  | some slot => exact ⟨slot, rfl⟩
  | none =>
      rw [slotState, hfind] at hnames
      rcases hnames with ⟨hvalid, _⟩ | ⟨_, hgeneration⟩
      · cases hvalid
      · exact absurd rfl hgeneration

/-- A publication that was accepted as new is live. -/
theorem holds_published (hK : K.Lawful) :
    Holds K (g.published K (digested K snapshot)) snapshot (generationOf K g snapshot + 1) := by
  obtain ⟨d, hheader⟩ := hK.header_digested snapshot
  have hdomain : (K.header (digested K snapshot)).domain = (K.header snapshot).domain := by
    rw [hheader]
  have hfind : (g.published K (digested K snapshot)).findSlot
      (K.header (digested K snapshot)).domain K.kind = some _ := findSlot_published hK
  rw [hdomain] at hfind
  obtain ⟨d', hassigned⟩ := hK.assigned_digested
    (generationOf K g snapshot + 1) snapshot
  refine ⟨_, hfind, hK.hasContent_store _ _, ?_, d', ?_⟩
  · rw [publishing, hK.state_store, generationOf, slotState_eq]
    rfl
  · rw [publishing, hK.content_store, hdomain, ← hassigned]
    rfl

/-- The sample session after a first publication that could not be saved. -/
def sampleTakenBack : Governor :=
  (staffed (started samplePolicy)).takenBack capacityKind (digested capacityKind (nthCapacity 1 100))

/-- What has to be computed about it. -/
theorem takenBack_checks :
    sampleTakenBack.checkPublisher (capacityKind.header (digested capacityKind (nthCapacity 1 100))) =
      .ok { publisher := ⟨1⟩, incarnation := ⟨1⟩, epoch := ⟨1⟩ } ∧
    (staffed (started samplePolicy)).findSlot (capacityKind.header (digested capacityKind
      (nthCapacity 1 100))).domain capacityKind.kind = none ∧
    (capacityKind.header (digested capacityKind (nthCapacity 1 100))).provenance.evidenceId.valid =
      true ∧
    ((sampleTakenBack.ensureSlot ⟨1⟩ .capacity).findSlot ⟨1⟩ .capacity).all
      (fun slot => !slot.hasContent) = true := by
  decide +kernel

end Governor

end Oversub
