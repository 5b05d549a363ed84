import Oversub.Runtime.Calls

/-!
# Oversub.Runtime.Slots

What the slots of a governor are after each update: the slot a lookup finds,
and what it holds.  The three kinds of snapshots obey the same laws
(`SnapshotKind.Lawful`), so every fact about a publication is proved once.
-/

namespace Oversub

/-! ## Laws of a kind -/

namespace SnapshotKind

/-- What the functions of a kind do to each other's results. -/
structure Lawful {σ : Type} (K : SnapshotKind σ) : Prop where
  header_withGeneration : ∀ n s, K.header (K.withGeneration n s) = { K.header s with generation := n }
  header_withPayloadDigest : ∀ d s, K.header (K.withPayloadDigest d s) =
    { K.header s with provenance := { (K.header s).provenance with payloadDigest := d } }
  withPayloadDigest_twice : ∀ d d' s,
    K.withPayloadDigest d (K.withPayloadDigest d' s) = K.withPayloadDigest d s
  withGeneration_withPayloadDigest : ∀ n d s,
    K.withGeneration n (K.withPayloadDigest d s) = K.withPayloadDigest d (K.withGeneration n s)
  validate_assigned : ∀ n s, (K.validate s).isOk = true →
    (K.validate (Governor.assigned K n s)).isOk = true
  content_store : ∀ s slot, K.content (K.store s slot) = some s
  hasContent_store : ∀ s slot, (K.store s slot).hasContent = true
  state_store : ∀ s slot, (K.store s slot).state = slot.state

/-- A payload digest that is the canonical one passes its check. -/
theorem commonChecks_digest {domain : OversubscriptionDomainId} {epoch : FabricEpoch}
    {tick : UInt64} {provenance : Provenance} {d d' : Digest}
    (h : AllPass (commonChecks domain epoch tick provenance d)) :
    AllPass (commonChecks domain epoch tick { provenance with payloadDigest := d' } d') := by
  simp only [commonChecks, allPass_cons, allPass_nil, and_true] at h ⊢
  obtain ⟨hdomain, hepoch, htick, hcomplete, -⟩ := h
  exact ⟨hdomain, hepoch, htick, hcomplete, by simp⟩

/-- A snapshot that was accepted is accepted under its canonical digest. -/
theorem validated_digest {domain : OversubscriptionDomainId} {epoch : FabricEpoch}
    {tick : UInt64} {provenance : Provenance} {d d' : Digest} {size entries duplicates : List Check}
    (h : (firstFailure (commonChecks domain epoch tick provenance d ++ size ++ entries ++
      duplicates)).isOk = true) :
    (firstFailure (commonChecks domain epoch tick { provenance with payloadDigest := d' } d' ++
      size ++ entries ++ duplicates)).isOk = true := by
  rw [firstFailure_isOk, allPass_append, allPass_append, allPass_append] at h ⊢
  obtain ⟨⟨⟨hcommon, hsize⟩, hentries⟩, hdup⟩ := h
  exact ⟨⟨⟨commonChecks_digest hcommon, hsize⟩, hentries⟩, hdup⟩

theorem capacityKind_lawful : capacityKind.Lawful where
  header_withGeneration _ _ := rfl
  header_withPayloadDigest _ _ := rfl
  withPayloadDigest_twice _ _ _ := rfl
  withGeneration_withPayloadDigest _ _ _ := rfl
  validate_assigned _ _ h := validated_digest h
  content_store _ _ := rfl
  hasContent_store _ _ := rfl
  state_store _ _ := rfl

theorem reservationKind_lawful : reservationKind.Lawful where
  header_withGeneration _ _ := rfl
  header_withPayloadDigest _ _ := rfl
  withPayloadDigest_twice _ _ _ := rfl
  withGeneration_withPayloadDigest _ _ _ := rfl
  validate_assigned _ _ h := validated_digest h
  content_store _ _ := rfl
  hasContent_store _ _ := rfl
  state_store _ _ := rfl

theorem admissionKind_lawful : admissionKind.Lawful where
  header_withGeneration _ _ := rfl
  header_withPayloadDigest _ _ := rfl
  withPayloadDigest_twice _ _ _ := rfl
  withGeneration_withPayloadDigest _ _ _ := rfl
  validate_assigned _ _ h := validated_digest h
  content_store _ _ := rfl
  hasContent_store _ _ := rfl
  state_store _ _ := rfl

variable {σ : Type} {K : SnapshotKind σ} {snapshot : σ}

/-- What is published is published under the header of the snapshot, but for
the digest. -/
theorem Lawful.header_digested (hK : K.Lawful) (snapshot : σ) : ∃ d,
    K.header (Governor.digested K snapshot) =
      { K.header snapshot with
        provenance := { (K.header snapshot).provenance with payloadDigest := d } } := by
  unfold Governor.digested
  split
  · exact ⟨_, hK.header_withPayloadDigest _ _⟩
  · exact ⟨_, rfl⟩

theorem Lawful.header_assigned (hK : K.Lawful) (n : UInt64) (snapshot : σ) : ∃ d,
    K.header (Governor.assigned K n snapshot) =
      { K.header snapshot with
        generation := n
        provenance := { (K.header snapshot).provenance with payloadDigest := d } } :=
  ⟨_, by rw [Governor.assigned, hK.header_withPayloadDigest, hK.header_withGeneration]⟩

/-- A slot holds what was published, up to the digest. -/
theorem Lawful.assigned_digested (hK : K.Lawful) (n : UInt64) (snapshot : σ) : ∃ d,
    Governor.assigned K n (Governor.digested K snapshot) =
      K.withPayloadDigest d (K.withGeneration n snapshot) := by
  unfold Governor.assigned Governor.digested
  split
  · exact ⟨_, by rw [hK.withGeneration_withPayloadDigest, hK.withPayloadDigest_twice]⟩
  · exact ⟨_, rfl⟩

theorem lawful_of_publication {c : Command} (h : Governor.Publication K snapshot c) : K.Lawful := by
  cases h with
  | capacity => exact capacityKind_lawful
  | reservations => exact reservationKind_lawful
  | admissions => exact admissionKind_lawful

theorem publication_eq {c : Command} (h : Governor.Publication K snapshot c) :
    c.publication = some ((K.header snapshot).domain, K.kind) := by
  cases h <;> rfl

end SnapshotKind

namespace Governor

/-! ## Lookups -/

section

variable {g : Governor} {domain domain' : OversubscriptionDomainId} {kind kind' : EvidenceKind}
  {f : EvidenceSlot → EvidenceSlot}

theorem findSlot_modifySlot (hf : ∀ slot, slot.key = slotKey domain kind →
      (f slot).key = slotKey domain kind) :
    (g.modifySlot domain kind f).findSlot domain kind = (g.findSlot domain kind).map f :=
  Table.get_modify hf

theorem findSlot_modifySlot_ne (hf : ∀ slot, slot.key = slotKey domain kind →
      (f slot).key = slotKey domain kind) (h : slotKey domain' kind' ≠ slotKey domain kind) :
    (g.modifySlot domain kind f).findSlot domain' kind' = g.findSlot domain' kind' :=
  Table.get_modify_ne hf h

theorem modifySlot_modifySlot {f' : EvidenceSlot → EvidenceSlot}
    (hf : ∀ slot, slot.key = slotKey domain kind → (f slot).key = slotKey domain kind) :
    (g.modifySlot domain kind f).modifySlot domain kind f' =
      g.modifySlot domain kind fun slot => f' (f slot) :=
  congrArg (fun slots => { g with slots }) (Table.modify_modify hf)

/-- A change of every slot that keeps the keys. -/
theorem findSlot_map (hf : ∀ slot, (f slot).key = slot.key) :
    { g with slots := g.slots.map f }.findSlot domain kind = (g.findSlot domain kind).map f :=
  Table.get_map hf

end

/-! ## Publications -/

section

variable {σ : Type} {K : SnapshotKind σ} {g : Governor} {copy : σ} {slot : EvidenceSlot}
  {domain : OversubscriptionDomainId} {kind : EvidenceKind}

theorem findSlot_congr {g' : Governor} (h : g'.slots = g.slots) :
    g'.findSlot domain kind = g.findSlot domain kind := by
  unfold findSlot
  rw [h]

theorem slots_modifySlot_congr {g' : Governor} {f : EvidenceSlot → EvidenceSlot}
    (h : g'.slots = g.slots) :
    (g'.modifySlot domain kind f).slots = (g.modifySlot domain kind f).slots :=
  congrArg (Table.modify EvidenceSlot.key (slotKey domain kind) f) h

theorem slotOf_eq (h : g.findSlot domain kind = some slot) : g.slotOf domain kind = slot := by
  rw [slotOf, h]
  rfl

theorem ensureSlot_of_find (h : g.findSlot domain kind = some slot) :
    g.ensureSlot domain kind = g := by
  unfold ensureSlot
  rw [h]

theorem key_store (hK : K.Lawful) {s : σ} : (K.store s slot).key = slot.key := by
  rw [EvidenceSlot.key, hK.state_store]
  rfl

/-- A slot that takes over a publication, before its content is there. -/
def takingOver (h : SnapshotHeader) (slot : EvidenceSlot) : EvidenceSlot :=
  { slot.cleared with state := recorded slot.state h }

/-- A slot that takes over a publication. -/
def publishing (K : SnapshotKind σ) (g : Governor) (copy : σ) (slot : EvidenceSlot) : EvidenceSlot :=
  let h := K.header copy
  K.store (assigned K ((g.slotState h.domain K.kind).generation + 1) copy) (takingOver h slot)

/-- A slot that has let go of a publication.  Only a slot that was there
before gets its bookkeeping back. -/
def unpublishing (K : SnapshotKind σ) (g : Governor) (copy : σ) (slot : EvidenceSlot) :
    EvidenceSlot :=
  match g.findSlot (K.header copy).domain K.kind with
  | some old => { (publishing K g copy slot).cleared with state := old.state }
  | none => (publishing K g copy slot).cleared

theorem slots_bookkept {h : SnapshotHeader} : (g.bookkept kind h).slots =
    ((g.ensureSlot h.domain kind).modifySlot h.domain kind (takingOver h)).slots := rfl

theorem slots_published : (g.published K copy).slots =
    ((g.ensureSlot (K.header copy).domain K.kind).modifySlot (K.header copy).domain K.kind
      (publishing K g copy)).slots := by
  have hfind : (g.bookkept K.kind (K.header copy)).findSlot (K.header copy).domain K.kind =
      some (takingOver (K.header copy) (g.slotOf (K.header copy).domain K.kind)) := by
    rw [findSlot_congr slots_bookkept, findSlot_modifySlot, findSlot_ensureSlot, Option.map_some]
    exact fun _ hkey => hkey
  rw [published, ensureSlot_of_find hfind, slots_modifySlot_congr slots_bookkept,
    modifySlot_modifySlot]
  · rfl
  · exact fun _ hkey => hkey

theorem slots_restoreRollback {rollback : IngestRollback} {publisher : PublisherId} :
    (g.restoreRollback rollback domain kind publisher).slots =
      (match rollback.slot with
      | none => g
      | some state =>
          (g.ensureSlot domain kind).modifySlot domain kind fun slot => { slot with state }).slots := by
  obtain ⟨slot, sequence⟩ := rollback
  cases slot <;> cases sequence <;> rfl

theorem slots_unpublished (hK : K.Lawful) : (g.unpublished K copy).slots =
    ((g.ensureSlot (K.header copy).domain K.kind).modifySlot (K.header copy).domain K.kind
      (unpublishing K g copy)).slots := by
  have hkey : ∀ slot, slot.key = slotKey (K.header copy).domain K.kind →
      (publishing K g copy slot).key = slotKey (K.header copy).domain K.kind :=
    fun _ hkey => (key_store hK).trans hkey
  have hcleared : ((g.published K copy).modifySlot (K.header copy).domain K.kind
      EvidenceSlot.cleared).slots =
        ((g.ensureSlot (K.header copy).domain K.kind).modifySlot (K.header copy).domain K.kind
          fun slot => (publishing K g copy slot).cleared).slots := by
    rw [slots_modifySlot_congr slots_published, modifySlot_modifySlot hkey]
  rw [unpublished, slots_restoreRollback, captureRollback]
  cases hfind : g.findSlot (K.header copy).domain K.kind with
  | none =>
      have hun : unpublishing K g copy = fun slot => (publishing K g copy slot).cleared := by
        funext slot
        rw [unpublishing, hfind]
      rw [hun]
      exact hcleared
  | some old =>
      have hun : unpublishing K g copy =
          fun slot => { (publishing K g copy slot).cleared with state := old.state } := by
        funext slot
        rw [unpublishing, hfind]
      have hfind' := findSlot_modifySlot (g := g.ensureSlot (K.header copy).domain K.kind)
        (f := fun slot => (publishing K g copy slot).cleared) hkey
      rw [← findSlot_congr hcleared, findSlot_ensureSlot, Option.map_some] at hfind'
      dsimp only [Option.map_some]
      rw [ensureSlot_of_find hfind', slots_modifySlot_congr hcleared, modifySlot_modifySlot, hun]
      exact hkey

/-! ## Lookups after a publication -/

theorem findSlot_published (hK : K.Lawful) :
    (g.published K copy).findSlot (K.header copy).domain K.kind =
      some (publishing K g copy (g.slotOf (K.header copy).domain K.kind)) := by
  rw [findSlot_congr slots_published, findSlot_modifySlot, findSlot_ensureSlot, Option.map_some]
  exact fun _ hkey => (key_store hK).trans hkey

theorem findSlot_published_ne (hK : K.Lawful)
    (hne : slotKey domain kind ≠ slotKey (K.header copy).domain K.kind) :
    (g.published K copy).findSlot domain kind = g.findSlot domain kind := by
  rw [findSlot_congr slots_published, findSlot_modifySlot_ne _ hne, findSlot_ensureSlot_ne hne]
  exact fun _ hkey => (key_store hK).trans hkey

theorem key_unpublishing (hK : K.Lawful) (h : slot.key = slotKey (K.header copy).domain K.kind) :
    (unpublishing K g copy slot).key = slotKey (K.header copy).domain K.kind := by
  unfold unpublishing
  cases hfind : g.findSlot (K.header copy).domain K.kind with
  | none => exact (key_store hK).trans h
  | some old =>
      have hkey : old.key = slotKey (K.header copy).domain K.kind := Table.key_of_get hfind
      exact hkey

theorem findSlot_unpublished (hK : K.Lawful) :
    (g.unpublished K copy).findSlot (K.header copy).domain K.kind =
      some (unpublishing K g copy (g.slotOf (K.header copy).domain K.kind)) := by
  rw [findSlot_congr (slots_unpublished hK), findSlot_modifySlot fun _ => key_unpublishing hK,
    findSlot_ensureSlot, Option.map_some]

theorem findSlot_unpublished_ne (hK : K.Lawful)
    (hne : slotKey domain kind ≠ slotKey (K.header copy).domain K.kind) :
    (g.unpublished K copy).findSlot domain kind = g.findSlot domain kind := by
  rw [findSlot_congr (slots_unpublished hK),
    findSlot_modifySlot_ne (fun _ => key_unpublishing hK) hne, findSlot_ensureSlot_ne hne]

@[simp] theorem hasContent_unpublishing : (unpublishing K g copy slot).hasContent = false := by
  unfold unpublishing
  split <;> rfl

/-! ## Members -/

theorem mem_ensureSlot (h : slot ∈ (g.ensureSlot domain kind).slots) :
    slot ∈ g.slots ∨ slot = newSlot domain kind := by
  unfold ensureSlot at h
  cases hfind : g.findSlot domain kind with
  | some _ =>
      rw [hfind] at h
      exact .inl h
  | none =>
      rw [hfind] at h
      exact (List.mem_append.mp h).imp_right List.mem_singleton.mp

/-- The slots of a governor in which the slot of one key was rewritten. -/
theorem mem_rewritten {f : EvidenceSlot → EvidenceSlot}
    (h : slot ∈ ((g.ensureSlot domain kind).modifySlot domain kind f).slots) :
    slot ∈ g.slots ∨ slot.hasContent = false ∨ slot = f (g.slotOf domain kind) := by
  rcases Table.mem_modify h with hmem | ⟨old, hold, rfl⟩
  · rcases mem_ensureSlot hmem with hmem | rfl
    · exact .inl hmem
    · exact .inr (.inl rfl)
  · have hfind : some (g.slotOf domain kind) = some old := findSlot_ensureSlot.symm.trans hold
    exact .inr (.inr (by rw [Option.some.inj hfind]))

theorem mem_published (h : slot ∈ (g.published K copy).slots) :
    slot ∈ g.slots ∨ slot.hasContent = false ∨
      slot = publishing K g copy (g.slotOf (K.header copy).domain K.kind) :=
  mem_rewritten (slots_published ▸ h)

theorem mem_unpublished (hK : K.Lawful) (h : slot ∈ (g.unpublished K copy).slots) :
    slot ∈ g.slots ∨ slot.hasContent = false := by
  rcases mem_rewritten (slots_unpublished hK ▸ h) with hmem | hslot | rfl
  · exact .inl hmem
  · exact .inr hslot
  · exact .inr hasContent_unpublishing

/-! ## The rest of the governor -/

/-- The core, without its slots and registrations. -/
def rest (g : Governor) : Governor := { (g.withPublishers []).core with slots := [] }

/-- What reads neither slots nor registrations agrees where the rest does. -/
theorem rest_congr {β : Sort*} {g g' : Governor} (f : Governor → β) (hf : ∀ g, f g.rest = f g)
    (h : g'.rest = g.rest) : f g' = f g := by
  rw [← hf g', h, hf]

theorem rest_ensureSlot : (g.ensureSlot domain kind).rest = g.rest := by
  rw [ensureSlot_eq]
  rfl

theorem rest_published : (g.published K copy).rest = g.rest := by
  have hmodify : (g.published K copy).rest =
      ((g.bookkept K.kind (K.header copy)).ensureSlot (K.header copy).domain K.kind).rest := rfl
  have hbookkept : (g.bookkept K.kind (K.header copy)).rest =
      (g.ensureSlot (K.header copy).domain K.kind).rest := rfl
  rw [hmodify, rest_ensureSlot, hbookkept, rest_ensureSlot]

theorem rest_restoreRollback {rollback : IngestRollback} {publisher : PublisherId} :
    (g.restoreRollback rollback domain kind publisher).rest = g.rest := by
  obtain ⟨slot, sequence⟩ := rollback
  cases slot with
  | none => cases sequence <;> rfl
  | some state =>
      have hrest : ((g.ensureSlot domain kind).modifySlot domain kind fun slot =>
          { slot with state }).rest = g.rest := rest_ensureSlot
      cases sequence with
      | none => exact hrest
      | some lastSequence => exact hrest

theorem rest_unpublished : (g.unpublished K copy).rest = g.rest := by
  have hcleared (x : Governor) {f : EvidenceSlot → EvidenceSlot} :
      (x.modifySlot (K.header copy).domain K.kind f).rest = x.rest := rfl
  rw [unpublished, rest_restoreRollback, hcleared, rest_published]

/-- The ingestion of a snapshot changes slots and registrations alone. -/
theorem Ingests.rest {g' : Governor} {o : IngestOutcome} (h : Ingests K g copy o g') :
    g'.rest = g.rest := by
  have hcore {x : Governor} (h : g'.core = x.core) : g'.rest = x.rest :=
    core_congr Governor.rest (fun _ => rfl) h
  cases h with
  | refused _ h =>
      rcases h with h | h
      · exact hcore h
      · exact (hcore h).trans rest_ensureSlot
  | duplicated _ _ _ h => exact (hcore h).trans rest_ensureSlot
  | accepted _ _ _ _ h => exact (hcore h).trans rest_published
  | unsaved _ _ _ h => exact (hcore h).trans rest_unpublished

end

end Governor

end Oversub
