import Oversub.Runtime.Live

/-!
# Oversub.Runtime.Later

The order of the states of one runtime: epochs, policy generations, the
generations of slots and the ids of decisions only grow, and a slot that is
current at a generation is the slot it always was at that generation.

Every call but `open` respects it, so two points of a session are in order,
and what a revalidation compares tells them apart as soon as it matters.
-/

namespace Oversub

/-- The slot has content, and nothing asks for its revalidation. -/
def EvidenceSlot.Current (slot : EvidenceSlot) : Prop :=
  slot.hasContent = true ∧ slot.state.revalidationRequired = false

namespace Governor

variable {g g' g'' : Governor} {domain : OversubscriptionDomainId} {kind : EvidenceKind} {σ : Type}
  {K : SnapshotKind σ} {copy : σ}

/-! ## The order of slots -/

/-- A slot at a later time: under a later generation, or the same but for its
flag, and current only as the slot that it was. -/
inductive SlotLater (g g' : Governor) (domain : OversubscriptionDomainId) (kind : EvidenceKind) : Prop
  | newer (h : (g.slotState domain kind).generation < (g'.slotState domain kind).generation)
  | same (h : (g'.slotState domain kind).bare = (g.slotState domain kind).bare)
      (hcurrent : ∀ slot, g'.findSlot domain kind = some slot → slot.Current →
        g.findSlot domain kind = some slot)

theorem slotLater_of_find (h : g'.findSlot domain kind = g.findSlot domain kind) :
    SlotLater g g' domain kind := by
  refine .same ?_ fun slot hslot _ => h ▸ hslot
  rw [slotState, slotState, h]

theorem slotLater_of_slots (h : g'.slots = g.slots) : SlotLater g g' domain kind :=
  slotLater_of_find (findSlot_congr h)

/-- A slot that is not current any more. -/
theorem slotLater_of_stale
    (h : (g'.slotState domain kind).bare = (g.slotState domain kind).bare)
    (hstale : ∀ slot, g'.findSlot domain kind = some slot → ¬ slot.Current) :
    SlotLater g g' domain kind :=
  .same h fun slot hslot hcurrent => absurd hcurrent (hstale slot hslot)

theorem SlotLater.generation_le (h : SlotLater g g' domain kind) :
    (g.slotState domain kind).generation ≤ (g'.slotState domain kind).generation := by
  cases h with
  | newer h => exact UInt64.le_of_lt h
  | same h => exact UInt64.le_of_eq (bare_generation h).symm

theorem SlotLater.trans (h : SlotLater g g' domain kind) (h' : SlotLater g' g'' domain kind) :
    SlotLater g g'' domain kind := by
  cases h with
  | newer h => exact .newer (UInt64.lt_of_lt_of_le h h'.generation_le)
  | same h hcurrent =>
      cases h' with
      | newer h' =>
          rw [bare_generation h] at h'
          exact .newer h'
      | same h' hcurrent' =>
          exact .same (h'.trans h) fun slot hslot hc => hcurrent slot (hcurrent' slot hslot hc) hc

/-- A slot that is current at the generation it had before is unchanged. -/
theorem SlotLater.unchanged (h : SlotLater g g' domain kind) {slot : EvidenceSlot}
    (hslot : g'.findSlot domain kind = some slot) (hcurrent : slot.Current)
    (hgeneration : (g'.slotState domain kind).generation = (g.slotState domain kind).generation) :
    g.findSlot domain kind = some slot := by
  cases h with
  | newer h =>
      rw [hgeneration] at h
      exact absurd h (UInt64.lt_irrefl _)
  | same _ h => exact h slot hslot hcurrent

/-- Every slot rewritten in place, but for its bookkeeping. -/
theorem slotLater_map {f : EvidenceSlot → EvidenceSlot} (hkey : ∀ slot, (f slot).key = slot.key)
    (hbare : ∀ slot, (f slot).state.bare = slot.state.bare)
    (hcurrent : ∀ slot, (f slot).Current → f slot = slot) (h : g'.slots = g.slots.map f) :
    SlotLater g g' domain kind := by
  have hfind : g'.findSlot domain kind = (g.findSlot domain kind).map f :=
    (findSlot_congr h).trans (findSlot_map hkey)
  refine .same ?_ fun slot hslot hc => ?_
  · rw [slotState, slotState, hfind]
    cases g.findSlot domain kind with
    | none => rfl
    | some slot => exact hbare slot
  · obtain ⟨old, hold, rfl⟩ := Option.map_eq_some_iff.mp (hfind.symm.trans hslot)
    rw [hcurrent old hc, hold]

theorem slotLater_ensureSlot {domain' : OversubscriptionDomainId} {kind' : EvidenceKind}
    (h : g'.slots = (g.ensureSlot domain' kind').slots) : SlotLater g g' domain kind := by
  by_cases hkey : slotKey domain kind = slotKey domain' kind'
  · obtain ⟨rfl, rfl⟩ := slotKey_inj.mp hkey
    have hfind : g'.findSlot domain kind = some (g.slotOf domain kind) :=
      (findSlot_congr h).trans findSlot_ensureSlot
    refine .same ?_ fun slot hslot hc => ?_
    · rw [slotState_eq, slotState_eq, slotOf_eq hfind]
    · obtain rfl := Option.some.inj (hfind.symm.trans hslot)
      cases hold : g.findSlot domain kind with
      | some slot => rw [slotOf_eq hold]
      | none =>
          have hempty : (g.slotOf domain kind).hasContent = false := by
            rw [slotOf, hold]
            rfl
          exact absurd hc.1 (by simp [hempty])
  · exact slotLater_of_find ((findSlot_congr h).trans (findSlot_ensureSlot_ne hkey))

/-- A publication that was accepted takes its slot to the next generation. -/
theorem generation_published (hK : K.Lawful) :
    ((g.published K copy).slotState (K.header copy).domain K.kind).generation =
      (g.slotState (K.header copy).domain K.kind).generation + 1 := by
  rw [slotState_eq, slotOf_eq (findSlot_published hK), publishing, hK.state_store, slotState_eq]
  rfl

theorem toNat_add_one_of_ne {n : UInt64} (h : n + 1 ≠ 0) : (n + 1).toNat = n.toNat + 1 := by
  have hlt := n.toNat_lt
  have hne : (n + 1).toNat ≠ 0 := fun h0 => h (UInt64.toNat_inj.mp h0)
  have hone : (1 : UInt64).toNat = 1 := rfl
  rw [UInt64.toNat_add] at hne ⊢
  omega

theorem lt_add_one_of_ne {n : UInt64} (h : n + 1 ≠ 0) : n < n + 1 := by
  rw [UInt64.lt_iff_toNat_lt, toNat_add_one_of_ne h]
  exact Nat.lt_succ_self _

theorem slotLater_published (hK : K.Lawful)
    (hnext : (g.slotState (K.header copy).domain K.kind).generation + 1 ≠ 0)
    (h : g'.slots = (g.published K copy).slots) : SlotLater g g' domain kind := by
  by_cases hkey : slotKey domain kind = slotKey (K.header copy).domain K.kind
  · obtain ⟨rfl, rfl⟩ := slotKey_inj.mp hkey
    refine .newer ?_
    have hstate : g'.slotState (K.header copy).domain K.kind =
        (g.published K copy).slotState (K.header copy).domain K.kind := by
      rw [slotState, slotState, findSlot_congr h]
    rw [hstate, generation_published hK]
    exact lt_add_one_of_ne hnext
  · exact slotLater_of_find ((findSlot_congr h).trans (findSlot_published_ne hK hkey))

/-- A publication that was rolled back leaves no content behind. -/
theorem slotLater_unpublished (hK : K.Lawful)
    (hnext : (g.slotState (K.header copy).domain K.kind).generation + 1 ≠ 0)
    (h : g'.slots = (g.unpublished K copy).slots) : SlotLater g g' domain kind := by
  by_cases hkey : slotKey domain kind = slotKey (K.header copy).domain K.kind
  · obtain ⟨rfl, rfl⟩ := slotKey_inj.mp hkey
    have hfind : g'.findSlot (K.header copy).domain K.kind =
        some (unpublishing K g copy (g.slotOf (K.header copy).domain K.kind)) :=
      (findSlot_congr h).trans (findSlot_unpublished hK)
    have hstale : ∀ slot, g'.findSlot (K.header copy).domain K.kind = some slot →
        ¬ slot.Current := by
      intro slot hslot hc
      obtain rfl := Option.some.inj (hfind.symm.trans hslot)
      exact absurd hc.1 (by simp)
    cases hold : g.findSlot (K.header copy).domain K.kind with
    | some old =>
        refine slotLater_of_stale ?_ hstale
        rw [slotState_eq, slotOf_eq hfind, unpublishing, hold, slotState_eq, slotOf_eq hold]
    | none =>
        refine .newer ?_
        rw [slotState_eq (g := g'), slotOf_eq hfind, unpublishing, hold]
        have hnew : ((publishing K g copy (g.slotOf (K.header copy).domain K.kind)).cleared).state =
            recorded (g.slotOf (K.header copy).domain K.kind).state (K.header copy) :=
          hK.state_store _ _
        dsimp only
        rw [hnew, slotState_eq]
        exact lt_add_one_of_ne (slotState_eq ▸ hnext)
  · exact slotLater_of_find ((findSlot_congr h).trans (findSlot_unpublished_ne hK hkey))

/-! ## The order of runtimes -/

/-- The id of the last decision for a domain, 0 where there was none. -/
def lastDecision (g : Governor) (domain : OversubscriptionDomainId) : UInt64 :=
  ((g.runtime domain).map fun r => r.lastDecision.value).getD 0

/-- A runtime at a later time, its decisions apart. -/
structure Later (g g' : Governor) : Prop where
  incarnation : g'.state.incarnation = g.state.incarnation
  epoch : g.state.epoch.value ≤ g'.state.epoch.value
  policy : g'.state.policy = g.state.policy ∨
    g.state.policy.generation.value < g'.state.policy.generation.value
  slots : ∀ domain kind, SlotLater g g' domain kind

/-- A runtime at a later time, its decisions for one domain. -/
structure DecidedLater (g g' : Governor) (domain : OversubscriptionDomainId) : Prop where
  issued : g.state.decisionsIssued ≤ g'.state.decisionsIssued
  last : g'.lastDecision domain = g.lastDecision domain ∨
    g.state.decisionsIssued < g'.lastDecision domain

theorem later_refl : Later g g := ⟨rfl, UInt64.le_refl _, .inl rfl, fun _ _ => slotLater_of_slots rfl⟩

theorem Later.policy_le (h : Later g g') :
    g.state.policy.generation.value ≤ g'.state.policy.generation.value := by
  rcases h.policy with h | h
  · rw [h]
    exact UInt64.le_refl _
  · exact UInt64.le_of_lt h

theorem Later.trans (h : Later g g') (h' : Later g' g'') : Later g g'' where
  incarnation := h'.incarnation.trans h.incarnation
  epoch := UInt64.le_trans h.epoch h'.epoch
  policy := by
    rcases h.policy with hp | hp
    · rw [← hp]
      exact h'.policy
    · exact .inr (UInt64.lt_of_lt_of_le hp h'.policy_le)
  slots domain kind := (h.slots domain kind).trans (h'.slots domain kind)

theorem decidedLater_refl : DecidedLater g g domain := ⟨UInt64.le_refl _, .inl rfl⟩

theorem DecidedLater.trans (h : DecidedLater g g' domain) (h' : DecidedLater g' g'' domain) :
    DecidedLater g g'' domain where
  issued := UInt64.le_trans h.issued h'.issued
  last := by
    rcases h'.last with hl | hl
    · rw [hl]
      exact h.last
    · exact .inr (UInt64.lt_of_le_of_lt h.issued hl)

/-- What reads the core cannot tell a runtime from one with the same core. -/
theorem later_congr {x : Governor} (h : g'.core = x.core) : Later g g' ↔ Later g x := by
  have hslot : ∀ g' domain kind, SlotLater g g'.core domain kind ↔ SlotLater g g' domain kind :=
    fun g' domain kind =>
      ⟨fun h => h.casesOn (fun hg => .newer hg) fun hg hc => .same hg hc,
        fun h => h.casesOn (fun hg => .newer hg) fun hg hc => .same hg hc⟩
  have hcore : ∀ g', Later g g'.core = Later g g' := fun g' =>
    propext ⟨fun h => ⟨h.1, h.2, h.3, fun _ _ => (hslot _ _ _).mp (h.4 _ _)⟩,
      fun h => ⟨h.1, h.2, h.3, fun _ _ => (hslot _ _ _).mpr (h.4 _ _)⟩⟩
  exact iff_of_eq (core_congr (Later g) hcore h)

theorem decidedLater_congr {x : Governor} (h : g'.core = x.core) :
    DecidedLater g g' domain ↔ DecidedLater g x domain := by
  have hcore : ∀ g', DecidedLater g g'.core domain = DecidedLater g g' domain := fun g' =>
    propext ⟨fun h => ⟨h.1, h.2⟩, fun h => ⟨h.1, h.2⟩⟩
  exact iff_of_eq (core_congr (fun x => DecidedLater g x domain) hcore h)

/-- A runtime that differs in its slots alone is later as they are. -/
theorem later_of_rest (h : g'.rest = g.rest) (hslots : ∀ domain kind, SlotLater g g' domain kind) :
    Later g g' where
  incarnation := (rest_congr (·.state.incarnation) (fun _ => rfl) h :)
  epoch := UInt64.le_of_eq (rest_congr (·.state.epoch.value) (fun _ => rfl) h).symm
  policy := .inl (rest_congr (·.state.policy) (fun _ => rfl) h :)
  slots := hslots

theorem decidedLater_of_same (hissued : g'.state.decisionsIssued = g.state.decisionsIssued)
    (hlast : g'.lastDecision domain = g.lastDecision domain) : DecidedLater g g' domain :=
  ⟨UInt64.le_of_eq hissued.symm, .inl hlast⟩

/-! ## The order over a call -/

theorem lt_nextPolicyGeneration {policy : OversubscriptionPolicy}
    (h : nextPolicyGeneration policy ≠ 0) :
    policy.generation.value < nextPolicyGeneration policy := by
  unfold nextPolicyGeneration at h ⊢
  split at h
  next hvalid =>
    rw [if_pos hvalid]
    exact lt_add_one_of_ne h
  next hvalid =>
    have hzero : policy.generation.value = 0 := by simpa [Gen.valid] using hvalid
    rw [if_neg hvalid, hzero]
    decide

theorem slotLater_ingested (hK : K.Lawful) {o : IngestOutcome} (h : Ingests K g copy o g') :
    SlotLater g g' domain kind := by
  have hslots {x : Governor} (h : g'.core = x.core) : g'.slots = x.slots :=
    core_congr (·.slots) (fun _ => rfl) h
  cases h with
  | refused _ h =>
      rcases h with h | h
      · exact slotLater_of_slots (hslots h)
      · exact slotLater_ensureSlot (hslots h)
  | duplicated _ _ _ h => exact slotLater_ensureSlot (hslots h)
  | accepted _ _ _ hnext h => exact slotLater_published hK hnext (hslots h)
  | unsaved _ _ hnext h => exact slotLater_unpublished hK hnext (hslots h)

theorem slotLater_dropped (h : g'.slots = g.dropEvidenceContent.slots) :
    SlotLater g g' domain kind := by
  refine slotLater_map EvidenceSlot.key_dropped (fun _ => rfl) (fun slot hc => ?_) h
  exact absurd hc.1 Bool.false_ne_true

/-- **Every call** but `open` leaves a later runtime. -/
theorem Effect.later {c : Command} {reply : Reply} (h : Effect g c reply g')
    (hc : c.opens = false) : Later g g' := by
  cases h with
  | kept _ hcore => exact (later_congr hcore).mpr later_refl
  | opened => cases hc
  | stopped _ hcore =>
      exact (later_congr hcore).mpr
        ⟨rfl, UInt64.le_refl _, .inl rfl, fun _ _ => slotLater_of_slots rfl⟩
  | installed hnext _ hcore =>
      exact (later_congr hcore).mpr ⟨rfl, UInt64.le_refl _, .inr (lt_nextPolicyGeneration hnext),
        fun _ _ => slotLater_dropped rfl⟩
  | advanced hnext hcore =>
      exact (later_congr hcore).mpr
        ⟨rfl, UInt64.le_of_lt hnext, .inl rfl, fun _ _ => slotLater_dropped rfl⟩
  | registered _ hcore =>
      exact (later_congr hcore).mpr
        ⟨rfl, UInt64.le_refl _, .inl rfl, fun _ _ => slotLater_of_slots rfl⟩
  | adopted hcore =>
      refine (later_congr hcore).mpr ⟨rfl, UInt64.le_refl _, .inl rfl, fun _ _ => ?_⟩
      refine slotLater_map (fun slot => ?_) (fun slot => ?_) (fun slot hc => ?_) rfl
      · split <;> rfl
      · split <;> rfl
      · split at hc
        · exact absurd hc.2 (by simp)
        next hp => rw [if_neg hp]
  | ingested hpub h =>
      exact later_of_rest h.rest fun _ _ =>
        slotLater_ingested (SnapshotKind.lawful_of_publication hpub) h
  | evaluated h =>
      cases h with
      | refused hcore => exact (later_congr hcore).mpr later_refl
      | recorded _ _ _ _ hcore =>
          exact (later_congr hcore).mpr
            ⟨rfl, UInt64.le_refl _, .inl rfl, fun _ _ => slotLater_of_slots rfl⟩

/-! ## Runtime states -/

section

variable {order : MapOrder} {tick wall : UInt64}

theorem applyHysteresis_domain {hysteresis : HysteresisPolicy} {result : EvaluationResult}
    {working : DomainRuntimeState} :
    (applyHysteresis hysteresis result tick working).1.domain = working.domain := by
  unfold applyHysteresis
  dsimp only
  repeat' split
  all_goals rfl

theorem rule_working_domain : (g.rule order domain tick wall).working.domain = domain := by
  have hworking : (g.rule order domain tick wall).working.domain =
      (g.workingFor domain (g.evaluationAt order domain tick)).domain := applyHysteresis_domain
  rw [hworking, workingFor]
  cases hr : g.runtime domain with
  | none => rfl
  | some previous => exact Table.key_of_get hr

theorem runtime_withRuling {r : Ruling} (hr : r.working.domain = domain) :
    (g.withRuling domain r).runtime domain = some r.working := by
  unfold withRuling
  dsimp only
  cases hfind : g.runtime domain with
  | none => exact Table.get_append_new hfind hr
  | some previous =>
      refine (Table.get_modify fun _ _ => hr).trans ?_
      have hprevious : Table.get (·.domain) domain g.state.domains = some previous := hfind
      rw [hprevious]
      rfl

/-- The runtime state of another domain than that of a decision. -/
theorem runtime_withRuling_ne {r : Ruling} {domain' : OversubscriptionDomainId}
    (hr : r.working.domain = domain) (hne : domain' ≠ domain) :
    (g.withRuling domain r).runtime domain' = g.runtime domain' := by
  unfold withRuling runtime
  dsimp only
  split
  · exact Table.get_modify_ne (fun _ _ => hr) hne
  · exact Table.get_append_ne (by rw [hr]; exact hne.symm)

theorem lastDecision_withEpoch {next : FabricEpoch} :
    (g.withEpoch next).lastDecision domain = g.lastDecision domain := by
  have hruntime : (g.withEpoch next).runtime domain = (g.runtime domain).map _ :=
    Table.get_map fun _ => rfl
  rw [lastDecision, lastDecision, hruntime, Option.map_map]
  rfl

end

/-- **Every call** but `open` leaves a runtime of later decisions, as long as an
evaluation finds an id for its decision. -/
theorem Effect.decidedLater {c : Command} {reply : Reply} (h : Effect g c reply g')
    (hc : c.opens = false)
    (hids : c.journals = true → g.state.decisionsIssued + 1 ≠ 0) : DecidedLater g g' domain := by
  cases h with
  | kept _ hcore => exact (decidedLater_congr hcore).mpr decidedLater_refl
  | opened => cases hc
  | stopped _ hcore => exact (decidedLater_congr hcore).mpr (decidedLater_of_same rfl rfl)
  | installed _ _ hcore => exact (decidedLater_congr hcore).mpr (decidedLater_of_same rfl rfl)
  | advanced _ hcore =>
      exact (decidedLater_congr hcore).mpr (decidedLater_of_same rfl lastDecision_withEpoch)
  | registered _ hcore => exact (decidedLater_congr hcore).mpr (decidedLater_of_same rfl rfl)
  | adopted hcore => exact (decidedLater_congr hcore).mpr (decidedLater_of_same rfl rfl)
  | ingested _ h =>
      exact decidedLater_of_same (rest_congr (·.state.decisionsIssued) (fun _ => rfl) h.rest :)
        (rest_congr (fun g => g.lastDecision domain) (fun _ => rfl) h.rest :)
  | @evaluated _ _ request _ _ h =>
      cases h with
      | refused hcore => exact (decidedLater_congr hcore).mpr decidedLater_refl
      | recorded _ _ _ _ hcore =>
          have hlt := lt_add_one_of_ne (hids rfl)
          refine (decidedLater_congr hcore).mpr ⟨UInt64.le_of_lt hlt, ?_⟩
          by_cases hdomain : domain = request.domain
          · subst hdomain
            refine .inr ?_
            rw [lastDecision, runtime_withRuling rule_working_domain]
            exact hlt
          · refine .inl ?_
            rw [lastDecision, runtime_withRuling_ne rule_working_domain hdomain, lastDecision]

end Governor

end Oversub
