import Oversub.Runtime.Books
import Oversub.Runtime.Room

/-!
# Oversub.Runtime.Generations

The generations of the evidence over whole runs, through every restart: a
publication that is accepted takes the next generation of its slot, and a
generation names one payload for ever.
-/

namespace Oversub

open Crash Files Trace

/-! ## Slots that move on -/

/-- The bookkeeping of a slot at a later time: under a later generation, or
unchanged. -/
def MovesOn (e e' : EvidenceSlotState) : Prop := e.generation < e'.generation ∨ e'.bare = e.bare

theorem movesOn_refl (e : EvidenceSlotState) : MovesOn e e := .inr rfl

theorem MovesOn.generation_le {e e' : EvidenceSlotState} (h : MovesOn e e') :
    e.generation ≤ e'.generation := by
  rcases h with h | h
  · exact UInt64.le_of_lt h
  · exact UInt64.le_of_eq (bare_generation h).symm

theorem MovesOn.trans {e e' e'' : EvidenceSlotState} (h : MovesOn e e') (h' : MovesOn e' e'') :
    MovesOn e e'' := by
  rcases h with h | h
  · exact .inl (UInt64.lt_of_lt_of_le h h'.generation_le)
  · rcases h' with h' | h'
    · rw [bare_generation h] at h'
      exact .inl h'
    · exact .inr (h'.trans h)

/-- Only what the flags leave counts. -/
theorem MovesOn.congr {e e' x x' : EvidenceSlotState} (h : MovesOn e e') (hx : x.bare = e.bare)
    (hx' : x'.bare = e'.bare) : MovesOn x x' := by
  rcases h with h | h
  · rw [← bare_generation hx, ← bare_generation hx'] at h
    exact .inl h
  · exact .inr (hx'.trans (h.trans hx.symm))

namespace Governor

variable {g g' : Governor} {σ : Type} {K : SnapshotKind σ} {snapshot copy : σ}
  {domain : OversubscriptionDomainId} {kind : EvidenceKind}

/-- A slot that is later has moved on. -/
theorem SlotLater.movesOn (h : SlotLater g g' domain kind) :
    MovesOn (g.slotState domain kind) (g'.slotState domain kind) := by
  cases h with
  | newer h => exact .inl h
  | same h => exact .inr h

/-- The bookkeeping of a slot that took over a publication. -/
theorem slotState_published (hK : K.Lawful) :
    (g.published K copy).slotState (K.header copy).domain K.kind =
      recorded (g.slotState (K.header copy).domain K.kind) (K.header copy) := by
  rw [slotState_eq, slotOf_eq (findSlot_published hK), publishing, hK.state_store, slotState_eq]
  rfl

end Governor

theorem Turns.movesOn {s : System} {c : System.Call} {b b' : DurableState} (h : Turns s c b b')
    (domain : OversubscriptionDomainId) (kind : EvidenceKind) :
    MovesOn (b.slotState domain kind) (b'.slotState domain kind) := by
  cases h with
  | same => exact movesOn_refl _
  | booted _ h => exact .inr (h.slots domain kind)
  | called hc _ h heffect _ h' =>
      have hlater : MovesOn _ _ := ((heffect.later hc).slots domain kind).movesOn
      exact hlater.congr (h.slots domain kind).symm (h'.slots domain kind).symm

/-- **Slots** move on, from every point of a run to every later one. -/
theorem movesOn_of_run {disk : Disk} {ts us : List Step} {a s : System} (ha : SessionRun disk ts a)
    (hrun : Run System.step a us s) (hlost : ∀ t ∈ ts ++ us, ¬ Step.LosesWrite t)
    (hopen : a.governor.isOpen = true) (hopen' : s.governor.isOpen = true)
    (domain : OversubscriptionDomainId) (kind : EvidenceKind) :
    MovesOn (a.governor.slotState domain kind) (s.governor.slotState domain kind) := by
  obtain ⟨b, hb⟩ := onFile_of_run ha (fun t ht => hlost t (List.mem_append_left _ ht)) hopen
  obtain ⟨b', hb', hmoves⟩ := hb.of_run
    (fun b domain kind => movesOn_refl (b.slotState domain kind))
    (fun h h' domain kind => (h domain kind).trans (h' domain kind)) Turns.movesOn ha hrun
    fun t ht => hlost t (List.mem_append_right _ ht)
  exact (hmoves domain kind).congr ((hb.kept hopen).slots domain kind)
    ((hb'.kept hopen').slots domain kind)

/-! ## Payloads -/

namespace Governor

variable {g g' : Governor} {σ : Type} {K : SnapshotKind σ} {snapshot copy : σ} {c : Command}

theorem opens_of_publication (h : Publication K snapshot c) : c.opens = false := by
  cases h <;> rfl

theorem commonChecks_payload {domain : OversubscriptionDomainId} {epoch : FabricEpoch}
    {tick : UInt64} {provenance : Provenance} {d : Digest}
    (h : AllPass (commonChecks domain epoch tick provenance d))
    (hset : provenance.payloadDigest.isZero = false) : provenance.payloadDigest = d := by
  simp only [commonChecks, allPass_cons, allPass_nil, and_true] at h
  obtain ⟨-, -, -, -, hdigest⟩ := h
  simpa [hset] using hdigest

/-- A digest that a snapshot came with is the canonical one. -/
theorem payloadDigest_of_valid (hc : Publication K snapshot c) (hvalid : (K.validate copy).isOk = true)
    (hset : (K.header copy).provenance.payloadDigest.isZero = false) :
    (K.header copy).provenance.payloadDigest = K.digest copy := by
  cases hc with
  | capacity =>
      have hall := firstFailure_isOk.mp hvalid
      rw [allPass_append, allPass_append, allPass_append] at hall
      exact commonChecks_payload hall.1.1.1 hset
  | reservations =>
      have hall := firstFailure_isOk.mp hvalid
      rw [allPass_append, allPass_append, allPass_append] at hall
      exact commonChecks_payload hall.1.1.1 hset
  | admissions =>
      have hall := firstFailure_isOk.mp hvalid
      rw [allPass_append, allPass_append, allPass_append] at hall
      exact commonChecks_payload hall.1.1.1 hset

/-- What is published is known by its canonical digest. -/
theorem payloadDigest_digested (hc : Publication K snapshot c)
    (hvalid : (K.validate (digested K snapshot)).isOk = true) :
    (K.header (digested K snapshot)).provenance.payloadDigest = K.digest snapshot := by
  have hK := SnapshotKind.lawful_of_publication hc
  by_cases hzero : (K.header snapshot).provenance.payloadDigest.isZero = true
  · rw [digested, if_pos hzero, hK.header_withPayloadDigest]
  · have hsame : digested K snapshot = snapshot := if_neg hzero
    rw [hsame] at hvalid ⊢
    exact payloadDigest_of_valid hc hvalid (by simpa using hzero)

end Governor

/-! ## Acknowledged publications -/

/-- The publication of a snapshot was acknowledged. -/
def Step.Acknowledges {σ : Type} (t : Step) (K : SnapshotKind σ) (snapshot : σ) (o : IngestOutcome) :
    Prop :=
  Governor.Publication K snapshot t.command ∧ t.reply = some (.ingested o) ∧ o.status.isOk = true

/-- The generation of a slot. -/
def System.generation (s : System) (domain : OversubscriptionDomainId) (kind : EvidenceKind) : UInt64 :=
  (s.governor.slotState domain kind).generation

section

variable {σ : Type} {K : SnapshotKind σ} {snapshot : σ} {o : IngestOutcome} {t : Step}

/-- What an acknowledged publication found in its slot, and left there. -/
inductive Takes (K : SnapshotKind σ) (snapshot : σ) (o : IngestOutcome) (before after : EvidenceSlotState) :
    Prop
  | accepted (hnew : o.duplicate = false) (hnext : before.generation + 1 ≠ 0)
      (hgeneration : o.generation = before.generation + 1) (hafter : after.generation = o.generation)
      (hpayload : after.payloadDigest = K.digest snapshot)
  | duplicated (hdup : o.duplicate = true) (hgeneration : o.generation = before.generation)
      (hpayload : before.payloadDigest = K.digest snapshot) (hafter : after = before)

theorem Step.Acknowledges.takes (h : t.Acknowledges K snapshot o) :
    t.before.governor.isOpen = true ∧ t.after.governor.isOpen = true ∧
      Takes K snapshot o (t.before.governor.slotState (K.header snapshot).domain K.kind)
        (t.after.governor.slotState (K.header snapshot).domain K.kind) := by
  obtain ⟨hc, hreply, hok⟩ := h
  have hK := SnapshotKind.lawful_of_publication hc
  obtain ⟨d, hheader⟩ := hK.header_digested snapshot
  have hdomain : (K.header (Governor.digested K snapshot)).domain = (K.header snapshot).domain := by
    rw [hheader]
  have hingests := (System.effect_of_reply hreply).ingests hc
  have hslots {x : Governor} (hg : (t.before.step t.label).governor.core = x.core)
      (domain : OversubscriptionDomainId) :
      t.after.governor.slotState domain K.kind = x.slotState domain K.kind :=
    Governor.core_congr (fun g => g.slotState domain K.kind) (fun _ => rfl) hg
  have hisOpen : (t.before.step t.label).governor.isOpen = t.before.governor.isOpen :=
    Governor.rest_congr (·.isOpen) (fun _ => rfl) hingests.rest
  cases hingests with
  | refused ho => exact absurd hok (by simp [ho])
  | unsaved _ ho => exact absurd hok (by simp [ho])
  | duplicated hp _ hpayload hg =>
      rw [hdomain] at hpayload hg
      refine ⟨hp.isOpen, hisOpen.trans hp.isOpen, .duplicated rfl ?_ ?_ ?_⟩
      · rw [hdomain]
      · rw [hpayload, Governor.payloadDigest_digested hc hp.valid]
      · rw [hslots hg, Governor.slotState_ensureSlot]
  | accepted hp _ _ hnext hg =>
      have hafter := hslots hg (K.header (Governor.digested K snapshot)).domain
      rw [Governor.slotState_published hK] at hafter
      rw [hdomain] at hnext hafter
      refine ⟨hp.isOpen, hisOpen.trans hp.isOpen, .accepted rfl hnext ?_ ?_ ?_⟩
      · rw [hdomain]
      · rw [hafter, hdomain]
        rfl
      · rw [hafter, ← Governor.payloadDigest_digested hc hp.valid]
        rfl

end

/-! ## The continuum -/

/-- The generations of a run: each publication that is accepted takes the next
one of its slot, none is ever taken back, and each names one payload. -/
structure Continuum (disk : Disk) (ts : List Step) (s : System) : Prop where
  next : ∀ t ∈ ts, ∀ {σ : Type} (K : SnapshotKind σ) (snapshot : σ) (o : IngestOutcome),
    Step.Acknowledges t K snapshot o → o.duplicate = false →
      o.generation.toNat = (t.before.generation (K.header snapshot).domain K.kind).toNat + 1 ∧
        (Step.after t).generation (K.header snapshot).domain K.kind = o.generation
  grows : ∀ us vs a, ts = us ++ vs → SessionRun disk us a → Run System.step a vs s →
    a.governor.isOpen = true → s.governor.isOpen = true → ∀ domain kind,
      a.generation domain kind ≤ s.generation domain kind
  unique : ∀ us t vs u ws, ts = us ++ t :: (vs ++ u :: ws) →
    ∀ {σ : Type} (K : SnapshotKind σ) (snapshot snapshot' : σ) (o o' : IngestOutcome),
      Step.Acknowledges t K snapshot o → Step.Acknowledges u K snapshot' o' →
        (K.header snapshot').domain = (K.header snapshot).domain → o'.generation = o.generation →
          K.digest snapshot' = K.digest snapshot

/-- A session with its first publication. -/
def firstPublished : List System.Call :=
  [Governor.openCall samplePolicy, Governor.registerCall,
    ⟨.ingestCapacity (Governor.nthCapacity 1 100), []⟩]

end Oversub
