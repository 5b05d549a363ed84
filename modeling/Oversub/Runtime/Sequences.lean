import Oversub.Runtime.Generations

/-!
# Oversub.Runtime.Sequences

The sequences of a publisher.  The registration of a publisher never forgets
how far its publications have come, through any crash, until the publisher is
admitted again: then it starts over, also in the epoch it was in.
-/

namespace Oversub

open Crash Files Trace

/-! ## How far a publisher has come -/

/-- A publisher is registered, and under an incarnation in an epoch it is at
least at a sequence. -/
def Ahead (publisher : PublisherId) (incarnation : IncarnationId) (epoch : FabricEpoch) (n : UInt64)
    (publishers : List PublisherRegistration) : Prop :=
  ∃ r, Table.get (·.publisher) publisher publishers = some r ∧
    (r.incarnation = incarnation → r.epoch = epoch → n ≤ r.lastSequence)

/-- A call that admits a publisher again, under an incarnation in an epoch: it
is fenced, or it is registered under something else. -/
def Step.Readmits (t : Step) (publisher : PublisherId) (incarnation : IncarnationId)
    (epoch : FabricEpoch) : Prop :=
  ∃ tick r, t.before.governor.registration publisher = some r ∧
    t.before.governor.accepting = true ∧
    (t.command = .registerPublisher publisher incarnation epoch tick ∧ r.incarnation = incarnation ∧
        r.fenced = true ∨
      t.command = .adoptIncarnation publisher incarnation epoch tick ∧
        ¬ (r.incarnation = incarnation ∧ r.fenced = false ∧ r.epoch.value = epoch.value))

section

variable {publisher : PublisherId} {incarnation : IncarnationId} {epoch : FabricEpoch} {n : UInt64}
  {s : System} {c : System.Call} {disk : Disk}

theorem Ahead.modify {publisher' : PublisherId} {publishers : List PublisherRegistration}
    {f : PublisherRegistration → PublisherRegistration}
    (h : Ahead publisher incarnation epoch n publishers) (hkey : ∀ r, (f r).publisher = r.publisher)
    (hf : publisher' = publisher → ∀ r, Table.get (·.publisher) publisher publishers = some r →
      (r.incarnation = incarnation → r.epoch = epoch → n ≤ r.lastSequence) →
        ((f r).incarnation = incarnation → (f r).epoch = epoch → n ≤ (f r).lastSequence)) :
    Ahead publisher incarnation epoch n (Table.modify (·.publisher) publisher' f publishers) := by
  obtain ⟨r, hr, hle⟩ := h
  by_cases hsame : publisher' = publisher
  · refine ⟨f r, ?_, hf hsame r hr hle⟩
    rw [hsame, Table.get_modify fun a ha => (hkey a).trans ha, hr, Option.map_some]
  · refine ⟨r, ?_, hle⟩
    rw [Table.get_modify_ne (fun a ha => (hkey a).trans ha) (Ne.symm hsame)]
    exact hr

/-- What a call makes of the registrations takes no publisher back, unless it
admits it again. -/
theorem Governor.Registers.ahead {reply : Reply} {publishers : List PublisherRegistration}
    (h : Governor.Registers s.governor c.command reply publishers)
    (hnot : ¬ Step.Readmits ⟨s, c⟩ publisher incarnation epoch)
    (ha : Ahead publisher incarnation epoch n s.governor.state.publishers) :
    Ahead publisher incarnation epoch n publishers := by
  generalize hcommand : c.command = command at h
  cases h with
  | same => exact ha
  | added =>
      obtain ⟨r, hr, hle⟩ := ha
      exact ⟨r, by rw [Table.get_append, hr, Option.some_or], hle⟩
  | @readmitted publisher' incarnation' epoch' tick _ _ _ r hold haccepting hc hepoch =>
      refine ha.modify (fun _ => rfl) fun hsame r' hr' _ hincarnation hepoch' => ?_
      obtain rfl : incarnation' = incarnation := hincarnation
      obtain rfl : epoch' = epoch := hepoch'
      obtain rfl := hsame
      rw [← hcommand] at hc
      exact absurd ⟨tick, r, hold, haccepting, hc⟩ hnot
  | fenced => exact ha.modify (fun _ => rfl) fun _ _ _ hle => hle
  | outdated =>
      obtain ⟨r, hr, hle⟩ := ha
      refine ⟨{ r with fenced := true, fenceReason := ReasonCode.epochNotAdvanced.code }, ?_, hle⟩
      rw [Table.get_map]
      · rw [hr, Option.map_some]
      · exact fun _ => rfl
  | sequenced _ hr =>
      refine ha.modify (fun _ => rfl) fun hsame r' hr' hle hincarnation hepoch => ?_
      have hfound := hr.found
      rw [hsame] at hfound
      obtain rfl := Option.some.inj (hr'.symm.trans hfound)
      exact UInt64.le_trans (hle hincarnation hepoch) (UInt64.le_of_lt hr.sequence)

/-! ## Runs -/

/-- A publisher has come so far, in the state file and in the runtime. -/
structure Arrived (publisher : PublisherId) (incarnation : IncarnationId) (epoch : FabricEpoch)
    (n : UInt64) (s : System) : Prop where
  saved : ∃ b, Governor.SavedAs b s.disk ∧ (validatePolicy b.policy).isOk = true ∧
    Ahead publisher incarnation epoch n b.publishers
  live : s.governor.isOpen = true → Ahead publisher incarnation epoch n s.governor.state.publishers

/-- **A publisher** is not taken back by a call that does not admit it again,
whatever becomes of the call. -/
theorem arrived_step (h : Arrived publisher incarnation epoch n s)
    (hlive : s.governor.isOpen = true → s.governor.Live)
    (hnot : ¬ Step.Readmits ⟨s, c⟩ publisher incarnation epoch) :
    Arrived publisher incarnation epoch n (s.step c) := by
  obtain ⟨b, hsaved, hpolicy, hahead⟩ := h.saved
  cases hc : c.command.opens with
  | true =>
      obtain ⟨options, policy, hcommand⟩ := Command.opens_eq_true.mp hc
      obtain ⟨x, hx, hgovernor⟩ := System.open_cases hcommand
      obtain ⟨b', hsaved', hpolicy', hahead', hlive'⟩ : ∃ b', Governor.SavedAs b' (s.step c).disk ∧
          (validatePolicy b'.policy).isOk = true ∧ Ahead publisher incarnation epoch n b'.publishers ∧
            (x.isOpen = true → Ahead publisher incarnation epoch n x.state.publishers) := by
        cases hwas : s.governor.isOpen with
        | true =>
            obtain ⟨hg, hdisk⟩ := hx.same hwas
            rw [hg, hdisk]
            exact ⟨b, hsaved, hpolicy, hahead, fun _ => h.live hwas⟩
        | false =>
            cases hopen : x.isOpen with
            | true =>
                obtain ⟨hstamped, hrebooted⟩ := hx.books hwas hopen hsaved hpolicy
                have hahead' : Ahead publisher incarnation epoch n x.state.publishers :=
                  hrebooted.publishers ▸ hahead
                exact ⟨x.state, hstamped.saved, hrebooted.policy ▸ hpolicy, hahead', fun _ => hahead'⟩
            | false => exact ⟨b, hsaved.congr (hx.state_eq hopen), hpolicy, hahead, nofun⟩
      refine ⟨⟨b', hsaved', hpolicy', hahead'⟩, fun hopen => ?_⟩
      rcases hgovernor with hg | ⟨_, hboot⟩
      · rw [hg] at hopen ⊢
        exact hlive' hopen
      · rw [hboot] at hopen
        cases hopen
  | false =>
      obtain ⟨reply, x, hends, hend⟩ := s.step_ends c hc
      refine ⟨?_, fun hopen => ?_⟩
      · rcases hends.state with hsame | ⟨hopen, hx⟩
        · exact ⟨b, hsaved.congr hsame, hpolicy, hahead⟩
        · exact ⟨x.state, hx.saved, hends.effect.policy hc (hlive hopen).policy,
            hends.registers.ahead hnot (h.live hopen)⟩
      · rcases hend with ⟨_, _, hg⟩ | ⟨_, hboot⟩
        · rw [hg] at hopen ⊢
          exact hends.registers.ahead hnot (h.live (hends.effect.wasOpen hc hopen))
        · rw [hboot] at hopen
          cases hopen

end

/-! ## Accepted publications -/

/-- A publication of a publisher under an incarnation in an epoch was accepted
as new, under a sequence. -/
def Step.Publishes (t : Step) (publisher : PublisherId) (incarnation : IncarnationId)
    (epoch : FabricEpoch) (n : UInt64) : Prop :=
  ∃ (σ : Type) (K : SnapshotKind σ) (snapshot : σ) (o : IngestOutcome), t.Acknowledges K snapshot o ∧
    o.duplicate = false ∧ (K.header snapshot).provenance.publisher = publisher ∧
      (K.header snapshot).provenance.incarnation = incarnation ∧ (K.header snapshot).epoch = epoch ∧
        (K.header snapshot).provenance.sequence = n

section

variable {publisher : PublisherId} {incarnation : IncarnationId} {epoch : FabricEpoch} {n m : UInt64}
  {t : Step}

/-- A publication that is accepted is ahead of its publisher, and takes it
along. -/
theorem Step.Publishes.registered (h : t.Publishes publisher incarnation epoch n) :
    ∃ r, t.before.governor.registration publisher = some r ∧ r.incarnation = incarnation ∧
      r.epoch = epoch ∧ r.lastSequence < n ∧
        t.after.governor.state.publishers = Table.modify (·.publisher) publisher
          (fun r => { r with lastSequence := n }) t.before.governor.state.publishers := by
  obtain ⟨σ, K, snapshot, o, ⟨hc, hreply, hok⟩, hnew, rfl, rfl, rfl, rfl⟩ := h
  have hK := SnapshotKind.lawful_of_publication hc
  obtain ⟨d, hheader⟩ := hK.header_digested snapshot
  have hprovenance : (K.header (Governor.digested K snapshot)).provenance =
      { (K.header snapshot).provenance with payloadDigest := d } := by rw [hheader]
  have hepoch : (K.header (Governor.digested K snapshot)).epoch = (K.header snapshot).epoch := by
    rw [hheader]
  have hingests := (System.effect_of_reply hreply).ingests hc
  generalize hafter : (System.step t.before t.label).governor = g' at hingests
  cases hingests with
  | refused ho => exact absurd hok (by simp [ho])
  | unsaved _ ho => exact absurd hok (by simp [ho])
  | duplicated => cases hnew
  | @accepted _ r hp hr _ _ hg =>
      have hpublishers : t.after.governor.state.publishers =
          (Governor.published K t.before.governor (Governor.digested K snapshot)).state.publishers := by
        have hcore : t.after.governor.core = _ := (congrArg Governor.core hafter).trans hg
        exact Governor.core_congr (·.state.publishers) (fun _ => rfl) hcore
      obtain ⟨hfound, _, hcurrent, hincarnation, hsequence⟩ := hr
      rw [Governor.publishers_published] at hpublishers
      rw [hprovenance] at hfound hincarnation hsequence hpublishers
      have hsame : r.epoch = (K.header snapshot).epoch := by
        rw [← hepoch, hp.epoch]
        exact congrArg FabricEpoch.mk hcurrent
      exact ⟨r, hfound, hincarnation, hsame, hsequence, hpublishers⟩

theorem Step.Publishes.ahead (h : t.Publishes publisher incarnation epoch n) :
    Ahead publisher incarnation epoch n t.after.governor.state.publishers := by
  obtain ⟨r, hfound, _, _, _, hpublishers⟩ := h.registered
  refine ⟨{ r with lastSequence := n }, ?_, fun _ _ => UInt64.le_refl _⟩
  have hkey : ∀ a : PublisherRegistration, a.publisher = publisher →
      ({ a with lastSequence := n } : PublisherRegistration).publisher = publisher := fun _ h => h
  rw [hpublishers, Table.get_modify hkey]
  exact (congrArg (Option.map _) hfound :)

/-- It is saved before it is acknowledged. -/
theorem Step.Publishes.arrived (h : t.Publishes publisher incarnation epoch n)
    (hlive : t.before.governor.isOpen = true → t.before.governor.Live) :
    Arrived publisher incarnation epoch n t.after := by
  refine ⟨?_, fun _ => h.ahead⟩
  have hahead := h.ahead
  obtain ⟨σ, K, snapshot, o, hack, hnew, _⟩ := h
  obtain ⟨hopen, _, htakes⟩ := hack.takes
  obtain ⟨hc, hreply, hok⟩ := hack
  have hopens : t.label.command.opens = false := Governor.opens_of_publication hc
  obtain ⟨reply, x, hends, hend⟩ := t.before.step_ends t.label hopens
  rcases hend with ⟨hsome, hsettles, hx⟩ | ⟨hnone, _⟩
  · obtain rfl : reply = .ingested o := Option.some.inj (hsome.symm.trans hreply)
    have hafter : t.after.governor = x := hx
    rcases hsettles hok with hstamped | hbooks
    · exact ⟨x.state, hstamped.saved, hends.effect.policy hopens (hlive hopen).policy, hafter ▸ hahead⟩
    · cases htakes with
      | duplicated hdup => exact absurd hdup (by simp [hnew])
      | accepted _ hnext hgeneration hlater =>
          rw [hafter, hbooks.slots, hgeneration] at hlater
          exact absurd hlater (UInt64.ne_of_lt (Governor.lt_add_one_of_ne hnext))
  · have hsome : (t.before.perform t.label).1 = _ := hreply
    rw [hnone] at hsome
    cases hsome

end

/-! ## A publisher that starts over -/

/-- The sample session after its first publication. -/
def sampleTaken : Governor :=
  Governor.taking capacityKind (Governor.staffed (Governor.started samplePolicy))
    (Governor.nthCapacity 1 100)

def fenceCall : System.Call := ⟨.fencePublisher ⟨1⟩ ReasonCode.publisherFenced.code, []⟩

/-- Its publisher is fenced and registered again. -/
def sampleReturned : Governor :=
  ((sampleTaken.fencing ⟨1⟩ ReasonCode.publisherFenced.code).saved.readmittingPublisher ⟨1⟩ ⟨1⟩ ⟨1⟩
    0).saved

/-- Other evidence, under the sequence of the first publication. -/
def replayedCapacity : CapacitySnapshot :=
  { Governor.nthCapacity 2 50 with provenance := { Governor.nthProvenance 2 with sequence := 1 } }

/-- What has to be computed about the session. -/
theorem returned_checks :
    sampleTaken.registration ⟨1⟩ =
      some { publisher := ⟨1⟩, incarnation := ⟨1⟩, epoch := ⟨1⟩, lastSequence := 1 } ∧
    (sampleTaken.fencing ⟨1⟩ ReasonCode.publisherFenced.code).saved.registration ⟨1⟩ =
      some { publisher := ⟨1⟩, incarnation := ⟨1⟩, epoch := ⟨1⟩, lastSequence := 1, fenced := true
             fenceReason := ReasonCode.publisherFenced.code } ∧
    Governor.admitted capacityKind sampleReturned replayedCapacity = true ∧
    Governor.nextGeneration capacityKind sampleReturned
      (Governor.digested capacityKind replayedCapacity) = 2 ∧
    Governor.admitted reservationKind sampleTaken (Governor.nthReservations 2) = true ∧
    Governor.nextGeneration reservationKind sampleTaken
      (Governor.digested reservationKind (Governor.nthReservations 2)) = 1 := by
  decide +kernel

theorem roomy_sampleTaken : Governor.Roomy 98 sampleTaken := Governor.roomy_sampleStaffed.taking

theorem roomy_sampleReturned : Governor.Roomy 96 sampleReturned :=
  roomy_sampleTaken.fencing.saved.readmittingPublisher.saved

/-- The calls of the session, up to its second publication. -/
def returningCalls : List System.Call :=
  [Governor.openCall samplePolicy, Governor.registerCall]

theorem returning_session : ∃ disk, returningCalls.foldl System.step (System.boot Governor.emptyDisk) =
    ⟨Governor.staffed (Governor.started samplePolicy), disk⟩ := by
  obtain ⟨disk₁, h₁⟩ := Governor.sample_started
  obtain ⟨disk₂, h₂⟩ := Governor.sample_staffed disk₁
  exact ⟨disk₂, by rw [returningCalls, List.foldl_cons, List.foldl_cons, List.foldl_nil, h₁, h₂]⟩

/-- The first publication of the session, wherever its directory is. -/
theorem publishes_first (disk : Disk) :
    Step.Publishes ⟨⟨Governor.staffed (Governor.started samplePolicy), disk⟩,
      ⟨.ingestCapacity (Governor.nthCapacity 1 100), []⟩⟩ ⟨1⟩ ⟨1⟩ ⟨1⟩ 1 := by
  obtain ⟨disk', h⟩ := Governor.sample_accepted disk
  exact ⟨_, capacityKind, Governor.nthCapacity 1 100, _,
    ⟨.capacity _, System.reply_of_perform h, rfl⟩, rfl, rfl, rfl, rfl, rfl⟩

/-- The second, of another kind. -/
theorem publishes_next (disk : Disk) :
    Step.Publishes ⟨⟨sampleTaken, disk⟩, ⟨.ingestReservations (Governor.nthReservations 2), []⟩⟩
      ⟨1⟩ ⟨1⟩ ⟨1⟩ 2 := by
  have htakes : Governor.Takes reservationKind sampleTaken (Governor.nthReservations 2) :=
    Governor.takes_of_admitted roomy_sampleTaken (.reservations _) returned_checks.2.2.2.2.1
  obtain ⟨disk', h⟩ := Governor.perform_ingest disk (.reservations (Governor.nthReservations 2)) htakes
  exact ⟨_, reservationKind, Governor.nthReservations 2, _,
    ⟨.reservations _, System.reply_of_perform h, rfl⟩, rfl, rfl, rfl, rfl, rfl⟩

section

variable {k : Nat} {g : Governor} {r : PublisherRegistration}

theorem step_fence (disk : Disk) (h : Governor.Roomy (k + 1) g) (hr : g.registration ⟨1⟩ = some r) :
    ∃ disk', System.step ⟨g, disk⟩ fenceCall =
      ⟨(g.fencing ⟨1⟩ ReasonCode.publisherFenced.code).saved, disk'⟩ :=
  ⟨_, System.step_of_perform (System.perform_of_completes (Governor.completes_replying
    (Governor.completes_fencePublisher h.isOpen hr h.fencing.savable)))⟩

theorem step_return (disk : Disk) (h : Governor.Roomy (k + 1) g) (hepoch : g.state.epoch.value = 1)
    (hr : g.registration ⟨1⟩ = some r) (hincarnation : r.incarnation = ⟨1⟩) (hfenced : r.fenced = true) :
    ∃ disk', System.step ⟨g, disk⟩ Governor.registerCall =
      ⟨(g.readmittingPublisher ⟨1⟩ ⟨1⟩ ⟨1⟩ 0).saved, disk'⟩ := by
  have hfound : (g.observing 0).registration ⟨1⟩ = some r := by
    rw [Governor.observing, if_pos rfl]
    exact hr
  exact ⟨_, System.step_of_perform (System.perform_of_completes (Governor.completes_replying
    (Governor.completes_registerPublisher_fenced h.isOpen h.accepting rfl ⟨rfl, hepoch.symm⟩ hfound
      hincarnation hfenced h.readmittingPublisher.savable)))⟩

end

/-- The second publication of the session, after the return. -/
theorem publishes_replayed (disk : Disk) :
    Step.Publishes ⟨⟨sampleReturned, disk⟩, ⟨.ingestCapacity replayedCapacity, []⟩⟩
      ⟨1⟩ ⟨1⟩ ⟨1⟩ 1 := by
  have htakes : Governor.Takes capacityKind sampleReturned replayedCapacity :=
    Governor.takes_of_admitted roomy_sampleReturned (.capacity _) returned_checks.2.2.1
  obtain ⟨disk', h⟩ := Governor.perform_ingest disk (.capacity replayedCapacity) htakes
  exact ⟨_, capacityKind, replayedCapacity, _, ⟨.capacity _, System.reply_of_perform h, rfl⟩,
    rfl, rfl, rfl, rfl, rfl⟩

end Oversub
