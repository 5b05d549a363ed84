import Oversub.Runtime.Jobs
import Oversub.Runtime.Expiry
import Oversub.Runtime.Revalidate

/-!
# Oversub.Runtime.Backing

No stale authority.  What a slot offers is the latest publication accepted for
it, as it was stored, and since then the runtime was not opened anew, the epoch
did not advance and the policy did not change.
-/

namespace Oversub

open Crash Files Trace

/-! ## The latest publication -/

/-- A snapshot was accepted as new, under a generation. -/
def Step.AcceptsAs {σ : Type} (t : Step) (K : SnapshotKind σ) (snapshot : σ) (generation : UInt64) : Prop :=
  Governor.Publication K snapshot t.command ∧
    ∃ reply, t.reply = some reply ∧ reply.accepted = some generation

/-- Nothing in a step takes the evidence of a slot from it or replaces it. -/
structure Step.Retains (t : Step) (domain : OversubscriptionDomainId) (kind : EvidenceKind) : Prop where
  reopened : ¬ t.Reopens
  epoch : ¬ t.AdvancesEpoch
  policy : ¬ t.InstallsPolicy
  accepted : ¬ t.Accepts domain kind

/-- The latest publication accepted for a slot, as it was stored. -/
def Latest {σ : Type} (ts : List Step) (K : SnapshotKind σ) (domain : OversubscriptionDomainId) (held : σ) : Prop :=
  ∃ us x vs snapshot generation, ts = us ++ x :: vs ∧ x.AcceptsAs K snapshot generation ∧
    (K.header snapshot).domain = domain ∧ held = Governor.assigned K generation (Governor.digested K snapshot) ∧
    ∀ t ∈ vs, t.Retains domain K.kind

namespace Governor

section

variable {σ τ : Type} {K : SnapshotKind σ} {L : SnapshotKind τ} {g g' : Governor} {c c' : Command}
  {snapshot held copy : σ} {other : τ} {domain : OversubscriptionDomainId} {reply : Reply}

/-- A kind of snapshots is told by its name. -/
theorem publication_kind (h : Publication K snapshot c) (h' : Publication L other c') (hkind : K.kind = L.kind) :
    (⟨σ, K⟩ : (σ : Type) × SnapshotKind σ) = ⟨τ, L⟩ := by
  cases h with
  | capacity =>
      cases h' with
      | capacity => rfl
      | reservations => cases hkind
      | admissions => cases hkind
  | reservations =>
      cases h' with
      | capacity => cases hkind
      | reservations => rfl
      | admissions => cases hkind
  | admissions =>
      cases h' with
      | capacity => cases hkind
      | reservations => cases hkind
      | admissions => rfl

/-! ## What a slot offers -/

theorem offered_congr (h : g'.findSlot domain K.kind = g.findSlot domain K.kind) :
    offered K g' domain = offered K g domain := by
  rw [offered, offered, h]

theorem offered_ensureSlot {domain' : OversubscriptionDomainId} {kind : EvidenceKind}
    (h : offered K (g.ensureSlot domain' kind) domain = some held) : offered K g domain = some held := by
  by_cases hkey : slotKey domain K.kind = slotKey domain' kind
  · obtain ⟨slot, hslot, hcontent, -⟩ := offered_eq_some h
    cases hfind : g.findSlot domain' kind with
    | some _ => rwa [ensureSlot_of_find hfind] at h
    | none =>
        obtain ⟨rfl, rfl⟩ := slotKey_inj.mp hkey
        rw [findSlot_ensureSlot, slotOf, hfind] at hslot
        obtain rfl := Option.some.inj hslot
        cases hcontent
  · rwa [offered_congr (findSlot_ensureSlot_ne hkey)] at h

theorem offered_flagPublisher {publisher : PublisherId} (hK : Publication K snapshot c) :
    offered K (g.flagPublisher publisher) domain = offered K g domain := by
  let flagged (slot : EvidenceSlot) : EvidenceSlot :=
    if slot.state.publisher = publisher then
      { slot with state := { slot.state with revalidationRequired := true } }
    else slot
  have hkey (slot : EvidenceSlot) : (flagged slot).key = slot.key := by
    dsimp only [flagged]
    split <;> rfl
  have hcontent (slot : EvidenceSlot) : (flagged slot).hasContent = slot.hasContent := by
    dsimp only [flagged]
    split <;> rfl
  have hheld (slot : EvidenceSlot) : K.content (flagged slot) = K.content slot := by
    dsimp only [flagged]
    split
    · cases hK <;> rfl
    · rfl
  have hfind : (g.flagPublisher publisher).findSlot domain K.kind = (g.findSlot domain K.kind).map flagged :=
    findSlot_map hkey
  rw [offered, offered, hfind]
  cases g.findSlot domain K.kind with
  | none => rfl
  | some slot =>
      rw [Option.map_some]
      dsimp only
      rw [hcontent, hheld]

theorem offered_empty (h : ∀ slot ∈ g.slots, slot.hasContent = false) : offered K g domain = none := by
  cases hoffered : offered K g domain with
  | none => rfl
  | some held =>
      obtain ⟨slot, hslot, hcontent, -⟩ := offered_eq_some hoffered
      rw [h slot (Table.mem_of_get hslot)] at hcontent
      cases hcontent

/-- A publication leaves its slot with the snapshot in it, and the other slots
as they were. -/
theorem offered_published (hK : Publication K snapshot c) (hL : Publication L other c')
    (h : offered K (g.published L (digested L other)) domain = some held) :
    ((slotKey domain K.kind ≠ slotKey (L.header (digested L other)).domain L.kind) ∧
      offered K g domain = some held) ∨
    (slotKey domain K.kind = slotKey (L.header (digested L other)).domain L.kind ∧
      ∃ t, Publication K t c' ∧ held = assigned K
        ((g.slotState domain K.kind).generation + 1) (digested K t)) := by
  by_cases hkey : slotKey domain K.kind = slotKey (L.header (digested L other)).domain L.kind
  · obtain ⟨hdomain, hkind⟩ := slotKey_inj.mp hkey
    cases publication_kind hK hL hkind
    have hlawful := SnapshotKind.lawful_of_publication hK
    obtain ⟨slot, hslot, -, hheld⟩ := offered_eq_some h
    rw [hdomain, findSlot_published hlawful] at hslot
    obtain rfl := Option.some.inj hslot
    refine .inr ⟨hkey, other, hL, ?_⟩
    rw [publishing, hlawful.content_store] at hheld
    rw [← Option.some.inj hheld, hdomain]
  · have hlawful := SnapshotKind.lawful_of_publication hL
    exact .inl ⟨hkey, (offered_congr (findSlot_published_ne hlawful hkey)).symm.trans h⟩

theorem offered_unpublished (hL : L.Lawful) {copy : τ}
    (h : offered K (g.unpublished L copy) domain = some held) : offered K g domain = some held := by
  by_cases hkey : slotKey domain K.kind = slotKey (L.header copy).domain L.kind
  · obtain ⟨slot, hslot, hcontent, -⟩ := offered_eq_some h
    obtain ⟨hdomain, hkind⟩ := slotKey_inj.mp hkey
    rw [hdomain, hkind, findSlot_unpublished hL] at hslot
    obtain rfl := Option.some.inj hslot
    rw [hasContent_unpublishing] at hcontent
    cases hcontent
  · exact (offered_congr (findSlot_unpublished_ne hL hkey)).symm.trans h

/-- What a call keeps of the evidence of a slot. -/
structure Keeps (K : SnapshotKind σ) (g : Governor) (c : Command) (reply : Reply) (g' : Governor)
    (domain : OversubscriptionDomainId) (held : σ) : Prop where
  offered : offered K g domain = some held
  epoch : g'.state.epoch = g.state.epoch
  policy : g'.state.policy = g.state.policy
  accepted : ∀ n, reply.accepted = some n → c.publication ≠ some (domain, K.kind)

/-- A runtime that is not open takes no evidence. -/
theorem Effect.empty (h : Effect g c reply g') (hc : c.opens = false) (hclosed : g.isOpen = false)
    (hg : ∀ slot ∈ g.slots, slot.hasContent = false) : ∀ slot ∈ g'.slots, slot.hasContent = false := by
  have hcore {x : Governor} (hx : g'.core = x.core) (hempty : ∀ slot ∈ x.slots, slot.hasContent = false) :
      ∀ slot ∈ g'.slots, slot.hasContent = false := by
    have hslots : g'.slots = x.slots := core_congr (·.slots) (fun _ => rfl) hx
    rwa [hslots]
  have hopen (hopen : g.isOpen = true) : False := nomatch hopen.symm.trans hclosed
  have hdropped : ∀ slot ∈ g.dropEvidenceContent.slots, slot.hasContent = false := fun slot hslot => by
    obtain ⟨old, -, rfl⟩ := List.mem_map.mp hslot
    rfl
  cases h with
  | kept _ hx => exact hcore hx hg
  | opened => cases hc
  | stopped _ hx => exact hcore hx hg
  | installed _ _ hx => exact hcore hx hdropped
  | advanced _ hx => exact hcore hx hdropped
  | registered _ hx => exact hcore hx hg
  | adopted hx =>
      refine hcore hx fun slot hslot => ?_
      obtain ⟨old, hold, rfl⟩ := List.mem_map.mp hslot
      split
      · exact hg old hold
      · exact hg old hold
  | ingested _ h =>
      cases h with
      | refused _ hx =>
          rcases hx with hx | hx
          · exact hcore hx hg
          · refine hcore hx fun slot hslot => ?_
            rcases mem_ensureSlot hslot with hold | rfl
            · exact hg slot hold
            · rfl
      | duplicated hp => exact (hopen hp.isOpen).elim
      | accepted hp => exact (hopen hp.isOpen).elim
      | unsaved hp => exact (hopen hp.isOpen).elim
  | evaluated h =>
      cases h with
      | refused hx => exact hcore hx hg
      | recorded _ _ _ _ hx => exact hcore hx hg

theorem Opens.pristine (h : Opens g g') (hclosed : g.isOpen = false) (hopen : g'.isOpen = true) : Pristine g' := by
  cases h with
  | live _ hfresh => exact hfresh
  | refused hwas => exact absurd (hwas.symm.trans hclosed) nofun
  | failed _ hg => exact absurd (hopen.symm.trans hg) nofun

theorem Opens.empty (h : Opens g g') (hg : g.isOpen = false → ∀ slot ∈ g.slots, slot.hasContent = false)
    (hclosed : g'.isOpen = false) : ∀ slot ∈ g'.slots, slot.hasContent = false := by
  cases h with
  | live _ hfresh => exact hfresh.slots
  | refused => exact hg hclosed
  | failed hwas _ hslots =>
      rcases hslots with hslots | hempty
      · rw [hslots]
        exact hg hwas
      · exact hempty

/-- **Evidence over a call**: a slot goes on offering what it did, or a
publication for it was accepted. -/
theorem Effect.offered (h : Effect g c reply g') (hc : c.opens = false) (hK : Publication K snapshot c')
    (hheld : Governor.offered K g' domain = some held) :
    Keeps K g c reply g' domain held ∨
      ∃ t n, Publication K t c ∧ reply.accepted = some n ∧ (K.header t).domain = domain ∧
        held = assigned K n (digested K t) := by
  have hcore {x : Governor} (hg : g'.core = x.core) : Governor.offered K x domain = some held := by
    have hslots : g'.slots = x.slots := core_congr (·.slots) (fun _ => rfl) hg
    rwa [offered_congr (findSlot_congr hslots)] at hheld
  have hkeeps {x : Governor} (hg : g'.core = x.core)
      (hoffered : Governor.offered K x domain = Governor.offered K g domain)
      (hepoch : x.state.epoch = g.state.epoch) (hpolicy : x.state.policy = g.state.policy)
      (hreply : reply.accepted = none) : Keeps K g c reply g' domain held := by
    refine ⟨hoffered.symm.trans (hcore hg), (core_congr (·.state.epoch) (fun _ => rfl) hg).trans hepoch,
      (core_congr (·.state.policy) (fun _ => rfl) hg).trans hpolicy, fun n hn => ?_⟩
    rw [hreply] at hn
    cases hn
  have hdropped {x : Governor} (hg : g'.core = x.core) (hslots : x.slots = g.dropEvidenceContent.slots) : False := by
    have hempty : Governor.offered K x domain = none := offered_empty fun slot hslot => by
      obtain ⟨old, -, rfl⟩ := List.mem_map.mp (hslots ▸ hslot)
      rfl
    have hsome := hcore hg
    rw [hempty] at hsome
    cases hsome
  cases h with
  | kept hquiet hg =>
      refine .inl (hkeeps hg rfl rfl rfl ?_)
      cases hreply : reply.accepted with
      | none => rfl
      | some n =>
          obtain ⟨o, rfl, -⟩ := Reply.accepted_eq_some hreply
          cases hquiet
  | opened => cases hc
  | stopped _ hg => exact .inl (hkeeps hg rfl rfl rfl rfl)
  | installed _ _ hg => exact (hdropped hg rfl).elim
  | advanced _ hg => exact (hdropped hg rfl).elim
  | registered _ hg => exact .inl (hkeeps hg rfl rfl rfl rfl)
  | @adopted publisher _ _ _ publishers _ _ hg =>
      have hflagged : Governor.offered K ((g.withPublishers publishers).flagPublisher publisher) domain =
          Governor.offered K g domain := offered_flagPublisher hK
      exact .inl (hkeeps hg hflagged rfl rfl rfl)
  | @ingested τ L other _ o _ hL h =>
      have hlawful := SnapshotKind.lawful_of_publication hL
      have hepoch : g'.state.epoch = g.state.epoch := rest_congr (·.state.epoch) (fun _ => rfl) h.rest
      have hpolicy : g'.state.policy = g.state.policy := rest_congr (·.state.policy) (fun _ => rfl) h.rest
      have hrefused {o : IngestOutcome} (ho : o.status.isOk = false) (n : UInt64)
          (hn : (Reply.ingested o).accepted = some n) : c.publication ≠ some (domain, K.kind) := by
        obtain ⟨o', ho', hok, -⟩ := Reply.accepted_eq_some hn
        cases ho'
        exact absurd hok (by simp [ho])
      cases h with
      | refused ho hg =>
          refine .inl ⟨?_, hepoch, hpolicy, hrefused ho⟩
          rcases hg with hg | hg
          · exact hcore hg
          · exact offered_ensureSlot (hcore hg)
      | duplicated _ _ _ hg =>
          refine .inl ⟨offered_ensureSlot (hcore hg), hepoch, hpolicy, fun n hn => ?_⟩
          obtain ⟨o', ho', -, hnew⟩ := Reply.accepted_eq_some hn
          cases ho'
          cases hnew
      | accepted _ _ _ _ hg =>
          obtain ⟨d, hheader⟩ := hlawful.header_digested other
          have hdomain : (L.header (digested L other)).domain = (L.header other).domain := by rw [hheader]
          rcases offered_published hK hL (hcore hg) with ⟨hkey, hkept⟩ | ⟨hkey, t, ht, rfl⟩
          · refine .inl ⟨hkept, hepoch, hpolicy, fun _ _ hpublication => hkey ?_⟩
            rw [SnapshotKind.publication_eq hL] at hpublication
            obtain ⟨rfl, hkind⟩ := Prod.mk.inj (Option.some.inj hpublication)
            rw [hdomain, hkind]
          · obtain ⟨rfl, hkind⟩ := slotKey_inj.mp hkey
            refine .inr ⟨t, _, ht, rfl, ?_, by rw [hkind]⟩
            have hsame := (SnapshotKind.publication_eq ht).symm.trans (SnapshotKind.publication_eq hL)
            rw [(Prod.mk.inj (Option.some.inj hsame)).1, hdomain]
      | unsaved _ ho _ hg =>
          exact .inl ⟨offered_unpublished hlawful (hcore hg), hepoch, hpolicy, hrefused ho⟩
  | evaluated h =>
      cases h with
      | refused hg => exact .inl (hkeeps hg rfl rfl rfl rfl)
      | recorded _ _ _ _ hg => exact .inl (hkeeps hg rfl rfl rfl rfl)

end

end Governor

/-! ## Evidence over a run -/

section

variable {σ : Type} {K : SnapshotKind σ} {snapshot held : σ} {c₀ : Command} {domain : OversubscriptionDomainId}
  {disk : Disk} {ts : List Step} {s : System}

theorem latest_here {c : System.Call} {n : UInt64} (ht : Step.AcceptsAs ⟨s, c⟩ K snapshot n)
    (hdomain : (K.header snapshot).domain = domain) :
    Latest (ts ++ [⟨s, c⟩]) K domain (Governor.assigned K n (Governor.digested K snapshot)) :=
  ⟨ts, _, [], snapshot, n, rfl, ht, hdomain, rfl, List.forall_mem_nil _⟩

theorem Latest.snoc {t : Step} (h : Latest ts K domain held) (ht : t.Retains domain K.kind) :
    Latest (ts ++ [t]) K domain held := by
  obtain ⟨us, x, vs, snapshot, n, rfl, hx, hdomain, hheld, hvs⟩ := h
  refine ⟨us, x, vs ++ [t], snapshot, n, by simp, hx, hdomain, hheld, ?_⟩
  rw [List.forall_mem_append, List.forall_mem_singleton]
  exact ⟨hvs, ht⟩

/-- **The latest publication** is what a slot of an open runtime offers. -/
theorem latest_of_run (hrun : SessionRun disk ts s) (hopen : s.governor.isOpen = true)
    (hK : Governor.Publication K snapshot c₀) (hheld : Governor.offered K s.governor domain = some held) :
    Latest ts K domain held := by
  induction hrun with
  | nil => cases hopen
  | @snoc ts s hrun c ih =>
      by_cases hreopens : Step.Reopens ⟨s, c⟩
      · obtain ⟨⟨options, policy, hc⟩, hclosed, -⟩ := hreopens
        obtain ⟨x, hx, hgovernor⟩ := System.open_cases hc
        rcases hgovernor with hx' | ⟨-, hboot⟩
        · rw [← hx'] at hx
          rw [Governor.offered_empty (hx.opens.pristine hclosed hopen).slots] at hheld
          cases hheld
        · rw [hboot] at hopen
          cases hopen
      · have hin := System.inSession hreopens hopen
        cases hc : c.command.opens with
        | true =>
            have hsame := System.step_same hreopens hopen hc
            rw [hsame] at hheld
            obtain ⟨options, policy, hcommand⟩ := Command.opens_eq_true.mp hc
            refine (ih hin.wasOpen hheld).snoc ⟨hreopens, fun h => h.2 ?_, fun h => h.2 ?_, fun h => ?_⟩
            · exact congrArg (·.state.epoch) hsame
            · exact congrArg (·.state.policy) hsame
            · obtain ⟨hpublication, -⟩ := h
              rw [show Step.command ⟨s, c⟩ = .openRuntime options policy from hcommand] at hpublication
              cases hpublication
        | false =>
            obtain ⟨reply, hreply, heffect⟩ := System.effect_of_open hopen
            rcases heffect.offered hc hK hheld with h | ⟨t, n, ht, hn, hdomain, rfl⟩
            · refine (ih hin.wasOpen h.offered).snoc
                ⟨hreopens, fun ha => ha.2 h.epoch, fun hp => hp.2 h.policy, fun ha => ?_⟩
              obtain ⟨hpublication, reply', n, hreply', hn⟩ := ha
              obtain rfl := Option.some.inj (hreply.symm.trans hreply')
              exact h.accepted n hn hpublication
            · exact latest_here ⟨ht, reply, hreply, hn⟩ hdomain

/-! ## Runtimes that are not open -/

/-- A runtime that is not open, and was not stopped, holds no evidence. -/
theorem empty_of_run (hrun : SessionRun disk ts s) (hstops : ∀ t ∈ ts, t.command.stops = false)
    (hclosed : s.governor.isOpen = false) : ∀ slot ∈ s.governor.slots, slot.hasContent = false := by
  induction hrun with
  | nil => exact List.forall_mem_nil _
  | @snoc ts s hrun c ih =>
      rw [List.forall_mem_append, List.forall_mem_singleton] at hstops
      rcases s.perform_cases c with ⟨reply, hreply, heffect⟩ | ⟨-, hboot⟩
      · cases hc : c.command.opens with
        | true =>
            obtain ⟨options, policy, hcommand⟩ := Command.opens_eq_true.mp hc
            obtain ⟨x, hx, hgovernor⟩ := System.open_cases hcommand
            rcases hgovernor with hx' | ⟨-, hboot⟩
            · exact (hx' ▸ hx.opens).empty (ih hstops.1) hclosed
            · rw [hboot]
              exact List.forall_mem_nil _
        | false =>
            obtain ⟨governor, w, hp, hs⟩ := System.perform_eq_some hreply
            have hflags := (Governor.yields_perform_flags hc hstops.2 _).returned hp
            have hwas : s.governor.isOpen = false := by
              rw [hs] at hclosed
              exact hflags.isOpen.symm.trans hclosed
            exact heffect.empty hc hwas (ih hstops.1 hwas)
      · rw [hboot]
        exact List.forall_mem_nil _

/-! ## Authority -/

/-- What a decision with authority was made of. -/
structure Backed (ts : List Step) (g : Governor) (domain : OversubscriptionDomainId) (d : Decision)
    (sn : Snapshots) : Prop where
  used : ∃ order dc, d.evaluation = evaluateDomain order g.state.policy g.index dc (g.expectationFor domain)
    sn.evidence d.issuedTick
  capacity : Latest ts capacityKind domain sn.cap
  reservations : Latest ts reservationKind domain sn.res
  admissions : Latest ts admissionKind domain sn.adm
  fresh : Fresh g.state.policy sn d.issuedTick

/-- **No stale authority**: slots are sound, also where the runtime has yet to be
opened, and a decision that authorizes was made of the latest publications. -/
theorem no_stale_authority (hrun : SessionRun disk ts s) :
    (s.governor.isOpen = true ∨ (∀ t ∈ ts, t.command.stops = false) → s.governor.SlotsSound) ∧
      ∀ (c : System.Call) (order : MapOrder) (wall : UInt64) (request : EvaluationRequest) (d : Decision),
        c.command = .evaluate order wall request → (s.perform c).1 = some (.decided (.ok d)) →
        d.newOversubscriptionAuthorized = true → ∃ sn, Backed ts s.governor request.domain d sn := by
  refine ⟨fun h => ?_, fun c order wall request d hc hreply hauthorized => ?_⟩
  · cases hopen : s.governor.isOpen with
    | true => exact (live_of_run hrun hopen).slots
    | false =>
        refine Governor.slotsSound_of_empty (empty_of_run hrun ?_ hopen)
        exact h.resolve_left fun hopen' => nomatch hopen'.symm.trans hopen
  · obtain ⟨hopen, hd, -⟩ := Governor.ruling_of_reply hc hreply
    have hlive := live_of_run hrun hopen
    have hvalid := hauthorized
    rw [hd] at hvalid
    obtain ⟨dc, sn, hgrounds⟩ := Governor.grounds_of_authorityValid hlive
      (Governor.authorityValid_of_authorized (Governor.authorized_spec hvalid).2)
    have hevaluation : d.evaluation = s.governor.evaluationAt order request.domain d.issuedTick :=
      congrArg Decision.evaluation hd
    have hcapacity : Governor.offered capacityKind s.governor request.domain = some sn.cap :=
      congrArg DomainEvidence.capacity hgrounds.evidence
    have hreservations : Governor.offered reservationKind s.governor request.domain = some sn.res :=
      congrArg DomainEvidence.reservations hgrounds.evidence
    have hadmissions : Governor.offered admissionKind s.governor request.domain = some sn.adm :=
      congrArg DomainEvidence.admissions hgrounds.evidence
    refine ⟨sn, ⟨order, dc, ?_⟩, latest_of_run hrun hopen (.capacity sn.cap) hcapacity,
      latest_of_run hrun hopen (.reservations sn.res) hreservations,
      latest_of_run hrun hopen (.admissions sn.adm) hadmissions, hgrounds.vetted.fresh⟩
    rw [hevaluation, Governor.evaluationAt, hgrounds.domain_eq, hgrounds.evidence]

/-- The decision of the sample session rests on its three publications. -/
theorem no_stale_authority_sample : ∃ sn,
    Backed (Trace.play System.step (System.boot Governor.emptyDisk) Governor.sampleCalls) Governor.sampleSystem.governor
      ⟨1⟩ Governor.sampleDecision sn := by
  obtain ⟨disk, hdecided⟩ := Governor.sampleSystem_decided
  have hreply : (System.perform Governor.sampleSystem Governor.evaluateCall).1 =
      some (.decided (.ok Governor.sampleDecision)) := congrArg Prod.fst hdecided
  exact (no_stale_authority (Trace.run_play (System.boot Governor.emptyDisk) Governor.sampleCalls)).2
    Governor.evaluateCall .listed 0 Governor.sampleRequest _ rfl hreply Governor.sampleRequest_authorized

end

end Oversub
