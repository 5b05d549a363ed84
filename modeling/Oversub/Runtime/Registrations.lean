import Oversub.Runtime.Room
import Oversub.Runtime.Upkeep

/-!
# Oversub.Runtime.Registrations

Registrations and the epoch.  Every publisher that is not fenced is registered
in the current epoch, across restarts: the journal never has a record from
after the epoch in the state file, so a replay raises no epoch over the
registrations beside it.
-/

namespace Oversub

open Crash Files Trace

/-- Every publisher that is not fenced is registered in an epoch. -/
def Enrolled (epoch : FabricEpoch) (publishers : List PublisherRegistration) : Prop :=
  ∀ r ∈ publishers, r.fenced = false → r.epoch.value = epoch.value

/-- No record is from after an epoch. -/
def DatedBy (epoch : FabricEpoch) (records : List AuditRecord) : Prop :=
  ∀ r ∈ records, r.epoch.value ≤ epoch.value

section

variable {epoch epoch' : FabricEpoch} {records records' : List AuditRecord} {record : AuditRecord}

theorem DatedBy.mono (h : DatedBy epoch records) (hle : epoch.value ≤ epoch'.value) :
    DatedBy epoch' records := fun r hr => UInt64.le_trans (h r hr) hle

theorem DatedBy.subset (h : DatedBy epoch records) (hsub : records' ⊆ records) :
    DatedBy epoch records' := fun r hr => h r (hsub hr)

theorem DatedBy.append (h : DatedBy epoch records) (h' : DatedBy epoch records') :
    DatedBy epoch (records ++ records') := List.forall_mem_append.mpr ⟨h, h'⟩

theorem datedBy_singleton (h : record.epoch.value ≤ epoch.value) : DatedBy epoch [record] :=
  List.forall_mem_singleton.mpr h

end

/-! ## Replays -/

section

variable {b : DurableState} {rs : List AuditRecord} {options : StoreOptions}

/-- A replay of records from before an epoch leaves it. -/
theorem epoch_replayRecord {r : Replay} {record : AuditRecord}
    (h : record.epoch.value ≤ r.state.epoch.value) :
    (replayRecord r record).state.epoch = r.state.epoch := by
  unfold replayRecord
  dsimp only
  split
  · rfl
  · split
    · simp [DurableState.replayed, h]
    · split
      · rfl
      · simp [DurableState.replayed, h]

theorem epoch_foldl_replayRecord (records : List AuditRecord) (r : Replay)
    (h : DatedBy r.state.epoch records) :
    (records.foldl replayRecord r).state.epoch = r.state.epoch := by
  induction records generalizing r with
  | nil => rfl
  | cons record records ih =>
      obtain ⟨hrecord, hrecords⟩ := List.forall_mem_cons.mp h
      have hsame := epoch_replayRecord hrecord
      rw [List.foldl_cons, ih _ (hsame ▸ hrecords), hsame]

theorem epoch_recoverState (h : DatedBy b.epoch rs) : (recoverState options b rs).1.epoch = b.epoch := by
  unfold recoverState
  dsimp only
  split
  · rfl
  · exact epoch_foldl_replayRecord rs { state := { b with audit := mergeAudit options b.audit rs } } h

theorem mergeAudit_subset : mergeAudit options b.audit rs ⊆ b.audit ++ rs := by
  intro r hr
  have hmerged := List.mem_of_mem_drop hr
  rw [List.mem_append] at hmerged ⊢
  exact hmerged.imp_left List.mem_of_mem_filter

theorem audit_recoverState_subset : (recoverState options b rs).1.audit ⊆ b.audit ++ rs := by
  unfold recoverState
  dsimp only
  split
  · exact List.subset_append_left _ _
  · unfold rebuildFromAudit
    dsimp only
    rw [foldl_replayRecord_frame]
    exact mergeAudit_subset

/-- What a runtime that is opened on a directory takes over of its books. -/
theorem reopened_books (hvalid : b.epoch.valid = true) (h : DatedBy b.epoch rs) :
    (b.reopened options rs).epoch = b.epoch ∧ (b.reopened options rs).publishers = b.publishers ∧
      (b.reopened options rs).audit ⊆ b.audit ++ rs := by
  have hepoch : (recoverState options b rs).1.epoch = b.epoch := epoch_recoverState h
  refine ⟨?_, (recoverState_books options b rs).1, audit_recoverState_subset⟩
  have hsame : (b.reopened options rs).epoch = if (recoverState options b rs).1.epoch.valid then
    (recoverState options b rs).1.epoch else ⟨1⟩ := rfl
  rw [hsame, hepoch, if_pos hvalid]

end

/-! ## The books over a run -/

/-- The epoch in the state file dates every record, and the publishers beside
it are as `P` has them. -/
structure Dated (P : FabricEpoch → List PublisherRegistration → Prop) (b : DurableState)
    (rs : List AuditRecord) : Prop where
  valid : b.epoch.valid = true
  publishers : P b.epoch b.publishers
  journal : DatedBy b.epoch rs
  audit : DatedBy b.epoch b.audit

/-- So does the runtime, whose history is no younger. -/
structure Dating (P : FabricEpoch → List PublisherRegistration → Prop) (b : DurableState)
    (rs : List AuditRecord) (g : Governor) : Prop where
  dated : Dated P b rs
  epoch : g.state.epoch = b.epoch
  publishers : g.state.publishers = b.publishers
  history : DatedBy b.epoch g.state.audit

section

variable {P : FabricEpoch → List PublisherRegistration → Prop} {b : DurableState}
  {rs rs' : List AuditRecord} {g g' : Governor}

theorem Dated.journal_subset (h : Dated P b rs) (hsub : rs' ⊆ rs) : Dated P b rs' :=
  ⟨h.valid, h.publishers, h.journal.subset hsub, h.audit⟩

/-- Only the epoch, the publishers and the history count. -/
theorem Dating.congr (h : Dating P b rs g) (hepoch : g'.state.epoch = g.state.epoch)
    (hpublishers : g'.state.publishers = g.state.publishers)
    (haudit : g'.state.audit = g.state.audit) : Dating P b rs g' :=
  ⟨h.dated, hepoch.trans h.epoch, hpublishers.trans h.publishers, haudit ▸ h.history⟩

/-- A runtime that saves itself. -/
theorem Dating.saved (h : Dating P b rs g) (hepoch : g'.state.epoch = g.state.epoch)
    (hpublishers : g'.state.publishers = g.state.publishers)
    (haudit : g'.state.audit = g.state.audit) : Dating P g'.state rs g' := by
  have hsame := h.congr hepoch hpublishers haudit
  have hdated := h.dated
  refine ⟨⟨?_, ?_, ?_, ?_⟩, rfl, rfl, ?_⟩
  · exact hsame.epoch ▸ hdated.valid
  · rw [hsame.epoch, hsame.publishers]
    exact hdated.publishers
  · exact hsame.epoch ▸ hdated.journal
  · exact hsame.epoch ▸ hsame.history
  · exact hsame.epoch ▸ hsame.history

/-- The epoch is only ever advanced. -/
theorem Governor.Effect.epoch_cases {c : Command} {reply : Reply} (h : Governor.Effect g c reply g')
    (hc : c.opens = false) : g'.state.epoch = g.state.epoch ∨
      ∃ next, c = .advanceEpoch next ∧ g.state.epoch.value < next.value ∧
        g'.core = (g.withEpoch next).core := by
  have hsame {x : Governor} (hcore : g'.core = x.core) : g'.state.epoch = x.state.epoch :=
    Governor.core_congr (·.state.epoch) (fun _ => rfl) hcore
  cases h with
  | kept _ hcore => exact .inl (hsame hcore)
  | opened => cases hc
  | stopped _ hcore => exact .inl ((hsame hcore).trans rfl)
  | installed _ _ hcore => exact .inl ((hsame hcore).trans rfl)
  | advanced hnext hcore => exact .inr ⟨_, rfl, hnext, hcore⟩
  | registered _ hcore => exact .inl ((hsame hcore).trans rfl)
  | adopted hcore => exact .inl ((hsame hcore).trans rfl)
  | ingested _ h => exact .inl (Governor.rest_congr (·.state.epoch) (fun _ => rfl) h.rest :)
  | evaluated h =>
      cases h with
      | refused hcore => exact .inl (hsame hcore)
      | recorded _ _ _ _ hcore => exact .inl ((hsame hcore).trans rfl)

theorem Governor.Effect.le_epoch {c : Command} {reply : Reply} (h : Governor.Effect g c reply g')
    (hc : c.opens = false) : g.state.epoch.value ≤ g'.state.epoch.value := by
  rcases h.epoch_cases hc with hsame | ⟨next, _, hnext, hcore⟩
  · exact hsame ▸ UInt64.le_refl _
  · have hafter : g'.state.epoch = next := Governor.core_congr (·.state.epoch) (fun _ => rfl) hcore
    exact hafter ▸ UInt64.le_of_lt hnext

/-- What holds of the epoch and the publishers beside it, over every step. -/
structure Respects (C : Step → Prop) (P : FabricEpoch → List PublisherRegistration → Prop) : Prop where
  saves : ∀ {t}, C t → ¬ t.LosesWrite
  step : ∀ {t : Step} {reply : Reply} {x : Governor}, C t → t.command.opens = false →
    Governor.Ends t.before.governor t.command t.before.disk reply x t.after.disk →
      (t.after.governor = x ∨ t.after.governor = {}) →
        P t.before.governor.state.epoch t.before.governor.state.publishers →
          P x.state.epoch x.state.publishers

/-- A runtime that is opened on the directory. -/
theorem Dated.reopened {options : GovernorOptions} {o : StoreOptions} (h : Dated P b rs)
    (hstarts : Governor.Starts options (b.reopened o rs) g) : Dating P g.state rs g := by
  obtain ⟨hepoch, hpublishers, haudit⟩ := @reopened_books _ _ o h.valid h.journal
  have hepoch' : g.state.epoch = b.epoch := (congrArg (·.epoch) hstarts.core :).trans hepoch
  have hpublishers' : g.state.publishers = b.publishers :=
    (congrArg (·.publishers) hstarts.core :).trans hpublishers
  have hhistory : DatedBy g.state.epoch g.state.audit := by
    rw [hstarts.audit, hepoch']
    exact (h.audit.append h.journal).subset haudit
  refine ⟨⟨hepoch' ▸ h.valid, ?_, hepoch' ▸ h.journal, hhistory⟩, rfl, rfl, hhistory⟩
  rw [hepoch', hpublishers']
  exact h.publishers

/-- A runtime that saves itself after a call. -/
theorem Dating.settled {c : Command} {reply : Reply} {disk disk' : Disk} (h : Dating P b rs g)
    (hc : c.opens = false) (hquiet : c.journals = false)
    (hends : Governor.Ends g c disk reply g' disk') (hP : P g'.state.epoch g'.state.publishers) :
    Dating P g'.state rs g' := by
  have hle : b.epoch.value ≤ g'.state.epoch.value := h.epoch ▸ hends.effect.le_epoch hc
  have hhistory : DatedBy g'.state.epoch g'.state.audit := by
    rw [(hends.quiet hquiet).audit]
    exact h.history.mono hle
  refine ⟨⟨?_, hP, h.dated.journal.mono hle, hhistory⟩, rfl, rfl, hhistory⟩
  have hvalid := h.dated.valid
  rw [FabricEpoch.valid, bne_iff_ne] at hvalid ⊢
  intro hzero
  rw [hzero] at hle
  exact hvalid (UInt64.le_antisymm hle UInt64.zero_le)

/-- A journal that is compacted. -/
theorem Dating.compacted (h : Dating P b rs g) : Dating P b g.kept g.compacting := by
  have hwindow : g.window ⊆ g.state.audit := List.drop_subset _ _
  have hkept : g.kept ⊆ g.state.audit := List.Subset.trans fitting_prefix.subset hwindow
  exact ⟨⟨h.dated.valid, h.dated.publishers, h.history.subset hkept, h.dated.audit⟩, h.epoch,
    h.publishers, h.history.subset hwindow⟩

/-- A decision that is recorded. -/
theorem Dating.recorded {domain : OversubscriptionDomainId} {r : Ruling} (h : Dating P b rs g)
    (hr : r.record.epoch = g.state.epoch) :
    Dating P b (rs ++ [r.record]) ((g.journaled r.record).withRuling domain r) := by
  have hnew : DatedBy b.epoch [r.record] :=
    datedBy_singleton (by rw [hr, h.epoch]; exact UInt64.le_refl _)
  have hold := h.history.append hnew
  exact ⟨⟨h.dated.valid, h.dated.publishers, h.dated.journal.append hnew, h.dated.audit⟩, h.epoch,
    h.publishers, hold.subset (List.drop_subset _ _)⟩

theorem Respects.upkeep {C : Step → Prop} (h : Respects C P) : Upkeep C (Dated P) (Dating P) where
  recovered _ _ hcold := hcold.journal_subset readable_prefix.subset
  loaded _ _ hcold hstarts _ _ := (hcold.journal_subset readable_prefix.subset).reopened hstarts
  cold h := h.dated
  called hC _ hquiet hwarm hends _ _ hbooks :=
    have hsame := hbooks (h.saves hC)
    hwarm.congr hsame.epoch hsame.publishers (hends.quiet hquiet).audit
  settled hC hc hquiet hwarm hends hafter _ := by
    refine hwarm.settled hc hquiet hends (h.step hC hc hends hafter ?_)
    rw [hwarm.epoch, hwarm.publishers]
    exact hwarm.dated.publishers
  ticking hwarm := hwarm.congr rfl rfl rfl
  compacted _ _ hwarm _ _ _ := hwarm.compacted
  recorded _ _ hwarm _ hcore _ _ _ :=
    hwarm.recorded (Governor.core_congr (·.state.epoch) (fun _ => rfl) hcore).symm
  unsaved hwarm := hwarm.congr rfl rfl rfl
  saved hwarm := hwarm.saved rfl rfl rfl

end

/-! ## Registrations over a run -/

/-- A publisher that is registered and not fenced, under an incarnation. -/
def Admits (publisher : PublisherId) (incarnation : IncarnationId)
    (publishers : List PublisherRegistration) : Prop :=
  ∃ r, Table.get (·.publisher) publisher publishers = some r ∧ r.incarnation = incarnation ∧
    r.fenced = false

/-- A durable write of a step failed: a call that changed the books could not
save them, or an evaluation could not write. -/
def Step.FailsWrite (t : Step) : Prop :=
  t.LosesWrite ∨ t.command.journals = true ∧ SomeFails t.label.fates

/-- A fence or an adoption of a publisher, or an epoch advance, that changed
its registration. -/
def Step.Dismisses (t : Step) (publisher : PublisherId) : Prop :=
  ((∃ reason, t.command = .fencePublisher publisher reason) ∨
      (∃ incarnation epoch tick, t.command = .adoptIncarnation publisher incarnation epoch tick) ∨
        ∃ next, t.command = .advanceEpoch next) ∧
    t.after.governor.registration publisher ≠ t.before.governor.registration publisher

section

variable {publisher : PublisherId} {incarnation : IncarnationId} {epoch : FabricEpoch}
  {publishers : List PublisherRegistration} {g x : Governor} {reply : Reply} {c : Command}

theorem Enrolled.modify {key : PublisherId} {f : PublisherRegistration → PublisherRegistration}
    (h : Enrolled epoch publishers)
    (hf : ∀ r ∈ publishers, (f r).fenced = false → (f r).epoch.value = epoch.value) :
    Enrolled epoch (Table.modify (·.publisher) key f publishers) := by
  intro r hr hfenced
  rcases Table.mem_modify hr with hold | ⟨a, ha, rfl⟩
  · exact h r hold hfenced
  · exact hf a (Table.mem_of_get ha) hfenced

/-- Where the epoch stays, every registration that is admitted is of it. -/
theorem Governor.Registers.enrolled (h : Governor.Registers g c reply publishers)
    (he : Enrolled g.state.epoch g.state.publishers) : Enrolled g.state.epoch publishers := by
  cases h with
  | same => exact he
  | added _ hepoch =>
      exact List.forall_mem_append.mpr ⟨he, List.forall_mem_singleton.mpr fun _ => hepoch⟩
  | readmitted _ _ _ hepoch => exact he.modify fun _ _ _ => hepoch
  | fenced => exact he.modify fun _ _ h => Bool.noConfusion h
  | outdated =>
      intro r hr hfenced
      obtain ⟨a, _, rfl⟩ := List.mem_map.mp hr
      cases hfenced
  | sequenced => exact he.modify fun r hr hfenced => he r hr hfenced

/-- An epoch that is advanced leaves no publisher unfenced. -/
theorem Governor.fenced_of_withEpoch {next : FabricEpoch} (hcore : x.core = (g.withEpoch next).core) :
    ∀ r ∈ x.state.publishers, r.fenced = true := by
  have hpublishers : x.state.publishers = (g.withEpoch next).state.publishers :=
    Governor.core_congr (·.state.publishers) (fun _ => rfl) hcore
  intro r hr
  rw [hpublishers] at hr
  obtain ⟨a, _, rfl⟩ := List.mem_map.mp hr
  rfl

/-- **Registrations** that are not fenced stay those of the epoch. -/
theorem respects_enrolled : Respects (fun t => ¬ t.LosesWrite) Enrolled where
  saves h := h
  step _ hc hends _ he := by
    rcases hends.effect.epoch_cases hc with hsame | ⟨next, _, _, hcore⟩
    · rw [hsame]
      exact hends.registers.enrolled he
    · intro r hr hfenced
      rw [Governor.fenced_of_withEpoch hcore r hr] at hfenced
      cases hfenced

/-- The calls that take a publisher that is admitted are those that dismiss
it. -/
theorem Governor.Registers.admits (h : Governor.Registers g c reply x.state.publishers)
    (ha : Admits publisher incarnation g.state.publishers) :
    Admits publisher incarnation x.state.publishers ∨
      x.registration publisher ≠ g.registration publisher ∧
        ((∃ reason, c = .fencePublisher publisher reason) ∨
          (∃ incarnation epoch tick, c = .adoptIncarnation publisher incarnation epoch tick) ∨
            ∃ next, c = .advanceEpoch next) := by
  by_cases hsame : x.registration publisher = g.registration publisher
  · obtain ⟨r, hr, hadmits⟩ := ha
    exact .inl ⟨r, hsame.trans hr, hadmits⟩
  have hmodify {key : PublisherId} {f : PublisherRegistration → PublisherRegistration}
      (hpublishers : x.state.publishers = Table.modify (·.publisher) key f g.state.publishers)
      (hf : ∀ r, (f r).publisher = r.publisher) : key = publisher := by
    by_contra hne
    refine hsame ?_
    rw [Governor.registration, hpublishers, Table.get_modify_ne (fun a ha => (hf a).trans ha) (Ne.symm hne)]
    rfl
  obtain ⟨r, hr, hincarnation, hfenced⟩ := ha
  generalize hpublishers : x.state.publishers = publishers at h
  cases h with
  | same => exact absurd (by rw [Governor.registration, hpublishers]; rfl) hsame
  | added =>
      exact .inl ⟨r, by rw [Table.get_append, hr, Option.some_or], hincarnation, hfenced⟩
  | readmitted hold _ hcommand =>
      obtain rfl := hmodify hpublishers fun _ => rfl
      rcases hcommand with ⟨_, _, hwas⟩ | ⟨rfl, _⟩
      · obtain rfl := Option.some.inj (hold.symm.trans hr)
        rw [hfenced] at hwas
        cases hwas
      · exact .inr ⟨hsame, .inr (.inl ⟨_, _, _, rfl⟩)⟩
  | fenced =>
      obtain rfl := hmodify hpublishers fun _ => rfl
      exact .inr ⟨hsame, .inl ⟨_, rfl⟩⟩
  | outdated => exact .inr ⟨hsame, .inr (.inr ⟨_, rfl⟩)⟩
  | @sequenced _ K snapshot =>
      obtain rfl := hmodify hpublishers fun _ => rfl
      generalize (K.header (Governor.digested K snapshot)).provenance.sequence = n
      have hkey (key : PublisherId) (a : PublisherRegistration) (h : a.publisher = key) :
          ({ a with lastSequence := n } : PublisherRegistration).publisher = key := h
      refine .inl ⟨{ r with lastSequence := n }, ?_, hincarnation, hfenced⟩
      rw [Table.get_modify (hkey _), hr, Option.map_some]

/-- **A publisher** that is admitted stays so until it is dismissed. -/
theorem respects_admits : Respects (fun t => ¬ t.LosesWrite ∧ ¬ t.Dismisses publisher)
    fun epoch publishers => Enrolled epoch publishers ∧ Admits publisher incarnation publishers where
  saves h := h.1
  step {t _ x} hC hc hends hafter hadmitted := by
    refine ⟨respects_enrolled.step hC.1 hc hends hafter hadmitted.1, ?_⟩
    rcases hends.registers.admits hadmitted.2 with hadmits | ⟨hchanged, hcommand⟩
    · exact hadmits
    · refine absurd ⟨hcommand, ?_⟩ hC.2
      rcases hafter with hx | hboot
      · rw [hx]
        exact hchanged
      · obtain ⟨r, hr, _⟩ := hadmitted.2
        have hsome : t.before.governor.registration publisher = some r := hr
        rw [hboot, hsome]
        nofun

end

/-! ## Calls that admit -/

/-- A registration or an adoption of a publisher reported success. -/
def Step.Enrolls (t : Step) (publisher : PublisherId) (incarnation : IncarnationId) (epoch : FabricEpoch) :
    Prop :=
  ∃ tick status, (t.command = .registerPublisher publisher incarnation epoch tick ∨
      t.command = .adoptIncarnation publisher incarnation epoch tick) ∧
    t.reply = some (.status status) ∧ status.isOk = true

namespace Governor

variable {g x : Governor} {publisher : PublisherId} {incarnation : IncarnationId} {epoch : FabricEpoch}
  {tick : UInt64} {force : Bool}

/-- A publisher that is to be admitted is so wherever the save ends. -/
theorem yields_persistState_admits (hopen : x.isOpen = true)
    (h : Admits publisher incarnation x.state.publishers) :
    Yields (x.persistState force) fun r => r.1.isOk = true →
      r.2.isOpen = true ∧ Admits publisher incarnation r.2.state.publishers :=
  yields_persistState.mono fun r hcore _ =>
    ⟨(core_congr (·.isOpen) (fun _ => rfl) hcore :).trans hopen,
      (core_congr (·.state.publishers) (fun _ => rfl) hcore : r.2.state.publishers = _) ▸ h⟩

theorem admits_admittedAs {r : PublisherRegistration} (hr : g.registration publisher = some r) :
    Admits publisher incarnation
      (g.modifyRegistration publisher (x.admittedAs incarnation epoch)).state.publishers := by
  have hkey (a : PublisherRegistration) (h : a.publisher = publisher) :
      (x.admittedAs incarnation epoch a).publisher = publisher := h
  refine ⟨x.admittedAs incarnation epoch r, ?_, rfl, rfl⟩
  have hget := Table.get_modify (l := g.state.publishers) hkey
  rw [← registration, hr] at hget
  exact hget

theorem isOpen_observing : (g.observing tick).isOpen = g.isOpen :=
  core_congr (·.isOpen) (fun _ => rfl) core_observing

theorem yields_registerPublisher : Yields (g.registerPublisher publisher incarnation epoch tick)
    fun r => r.1.isOk = true → r.2.isOpen = true ∧ Admits publisher incarnation r.2.state.publishers := by
  unfold registerPublisher
  dsimp only
  split
  · exact yields_pure nofun
  next hopen =>
    have hobserved : (g.observing tick).isOpen = true := isOpen_observing.trans (open_of_not hopen)
    split
    · exact yields_pure nofun
    split
    · exact yields_pure nofun
    split
    · exact yields_pure nofun
    split
    next r hr =>
      split
      next hincarnation =>
        split
        · exact yields_persistState_admits hobserved (admits_admittedAs hr)
        next hfenced => exact yields_pure fun _ => ⟨hobserved, r, hr, hincarnation, by simpa using hfenced⟩
      · exact yields_pure nofun
    next hnone =>
      split
      · exact yields_pure nofun
      · have hnew := Table.get_append_new (a := ({ publisher, incarnation, epoch, registeredTick :=
          (g.observing tick).clock.tick } : PublisherRegistration)) hnone rfl
        exact yields_persistState_admits hobserved ⟨_, hnew, rfl, rfl⟩

theorem yields_adoptIncarnation : Yields (g.adoptIncarnation publisher incarnation epoch tick)
    fun r => r.1.isOk = true → r.2.isOpen = true ∧ Admits publisher incarnation r.2.state.publishers := by
  unfold adoptIncarnation
  dsimp only
  split
  · exact yields_pure nofun
  next hopen =>
    have hobserved : (g.observing tick).isOpen = true := isOpen_observing.trans (open_of_not hopen)
    split
    · exact yields_pure nofun
    split
    · exact yields_pure nofun
    split
    · exact yields_pure nofun
    split
    · exact yields_pure nofun
    next r hr =>
      split
      next hsame => exact yields_pure fun _ => ⟨hobserved, r, hr, hsame.1, hsame.2.1⟩
      · exact yields_persistState_admits hobserved (admits_admittedAs hr)

end Governor

/-- A call that admits a publisher leaves it admitted. -/
theorem Step.Enrolls.admits {t : Step} {publisher : PublisherId} {incarnation : IncarnationId}
    {epoch : FabricEpoch} (h : t.Enrolls publisher incarnation epoch) :
    t.after.governor.isOpen = true ∧ Admits publisher incarnation t.after.governor.state.publishers := by
  obtain ⟨tick, status, hcommand, hreply, hok⟩ := h
  obtain ⟨x, w, hp, hx⟩ := System.perform_eq_some hreply
  have hafter : t.after.governor = x := congrArg (·.governor) hx
  have hyields : Yields (t.command.perform t.before.governor) fun r => ∀ status, r.1 = .status status →
      status.isOk = true → r.2.isOpen = true ∧ Admits publisher incarnation r.2.state.publishers := by
    have hend (r : Status × Governor) (hr : r.1.isOk = true →
        r.2.isOpen = true ∧ Admits publisher incarnation r.2.state.publishers) (status : Status)
        (hstatus : Reply.status r.1 = .status status) : status.isOk = true →
          r.2.isOpen = true ∧ Admits publisher incarnation r.2.state.publishers := by
      obtain rfl := Reply.status.inj hstatus
      exact hr
    rcases hcommand with hc | hc
    · rw [hc]
      exact Governor.yields_registerPublisher.bind fun r hr => yields_pure (hend r hr)
    · rw [hc]
      exact Governor.yields_adoptIncarnation.bind fun r hr => yields_pure (hend r hr)
  rw [hafter]
  exact (hyields _).returned hp _ rfl hok

/-! ## Refusals -/

/-- The reasons for which a publication is refused for its registration. -/
def registrationReasons : List ReasonCode :=
  [.publisherNotRegistered, .publisherFenced, .publisherIncarnationStale, .workerEpochStale]

/-- A status that does not blame the registration. -/
def Status.Spares (s : Status) : Prop := s.reason ∉ registrationReasons

instance (s : Status) : Decidable s.Spares := inferInstanceAs (Decidable (_ ∉ _))

theorem spares_success : Status.success.Spares := by decide

theorem spares_notOpen : notOpen.Spares := by decide

theorem spares_ioFailure {detail : String} : (ioFailure .none detail).Spares := by
  have hnone : ReasonCode.none ∉ registrationReasons := by decide
  exact hnone

theorem spares_firstFailure {checks : List Check} (h : ∀ c ∈ checks, c.status.Spares) :
    (firstFailure checks).Spares := by
  induction checks with
  | nil => decide
  | cons c checks ih =>
      obtain ⟨hc, hchecks⟩ := List.forall_mem_cons.mp h
      rw [firstFailure]
      split
      · exact hc
      · exact ih hchecks

theorem spares_commonChecks {domain : OversubscriptionDomainId} {epoch : FabricEpoch} {tick : UInt64}
    {provenance : Provenance} {computed : Digest} :
    ∀ c ∈ commonChecks domain epoch tick provenance computed, c.status.Spares := by
  simp only [commonChecks, List.forall_mem_cons]
  decide

/-- The validators say nothing of the registration. -/
theorem spares_validateCapacitySnapshot (s : CapacitySnapshot) : (validateCapacitySnapshot s).Spares := by
  refine spares_firstFailure ?_
  simp only [List.forall_mem_append, List.forall_mem_flatMap, resourceCapacityChecks, List.forall_mem_cons]
  exact ⟨⟨⟨spares_commonChecks, by decide⟩, fun _ _ => by decide⟩, by decide⟩

theorem spares_validateReservationSnapshot (s : ReservationSnapshot) :
    (validateReservationSnapshot s).Spares := by
  refine spares_firstFailure ?_
  simp only [List.forall_mem_append, List.forall_mem_flatMap, guaranteeChecks, List.forall_mem_cons]
  exact ⟨⟨⟨spares_commonChecks, by decide⟩, fun _ _ => by decide⟩, by decide⟩

theorem spares_validateAdmissionSnapshot (s : AdmissionSnapshot) :
    (validateAdmissionSnapshot s).Spares := by
  refine spares_firstFailure ?_
  simp only [List.forall_mem_append, List.forall_mem_flatMap, demandRecordChecks, List.forall_mem_cons]
  exact ⟨⟨⟨spares_commonChecks, by decide⟩, fun _ _ => by decide⟩, by decide⟩

/-- Nor does the store. -/
theorem Store.yields_save_spares {s : Store} {state : DurableState} : Yields (s.save state) Status.Spares := by
  unfold Store.save
  split
  · exact yields_pure (by decide)
  · cases hs : serializeState state with
    | error status => exact yields_pure (by rw [serializeState_error hs]; decide)
    | ok payload =>
        dsimp only
        split
        · exact yields_pure (by decide)
        · refine yields_true.bind fun ok _ => ?_
          split
          · exact yields_pure (by decide)
          · exact yields_pure spares_ioFailure

namespace Governor

variable {g : Governor} {force : Bool} {h : SnapshotHeader} {status : Status} {σ : Type}
  {K : SnapshotKind σ} {snapshot : σ}

theorem yields_persistState_spares : Yields (g.persistState force) fun r => r.1.Spares := by
  have hsave : Yields g.saveState fun r => r.1.Spares :=
    Store.yields_save_spares.bind fun _ h => yields_pure h
  unfold persistState
  split
  · split
    · exact hsave
    · exact yields_pure spares_notOpen
  · split
    · exact yields_pure spares_success
    · split
      · exact yields_pure spares_success
      · exact hsave

/-- The publisher of a publication is registered in the current epoch, under
its incarnation. -/
def Welcomes (g : Governor) (h : SnapshotHeader) : Prop :=
  ∃ r, g.registration h.provenance.publisher = some r ∧ r.incarnation = h.provenance.incarnation ∧
    r.fenced = false ∧ r.epoch.value = g.state.epoch.value

theorem checkPublisher_spares (hw : g.isOpen = true → g.Welcomes h)
    (herr : g.checkPublisher h = .error status) : status.Spares := by
  unfold checkPublisher at herr
  split at herr
  · cases herr
    decide
  next hopen =>
    obtain ⟨r, hr, hincarnation, hfenced, hepoch⟩ := hw (open_of_not hopen)
    rw [hr] at herr
    simp only [hfenced, hepoch, hincarnation] at herr
    repeat' split at herr
    all_goals first | contradiction | (cases herr; decide)

theorem checkSlot_spares {state : EvidenceSlotState} {r : PublisherRegistration}
    (herr : g.checkSlot state r h = .error status) : status.Spares := by
  unfold checkSlot at herr
  dsimp only at herr
  repeat' split at herr
  all_goals cases herr
  all_goals decide

theorem ingestLocked_spares {kind : EvidenceKind} {g' : Governor} (hw : g.isOpen = true → g.Welcomes h)
    (herr : g.ingestLocked kind h = (.error status, g')) : status.Spares := by
  rw [ingestLocked_eq] at herr
  cases hcheck : g.checkPublisher h with
  | error status' =>
      rw [hcheck] at herr
      obtain rfl := Except.error.inj (congrArg Prod.fst herr)
      exact checkPublisher_spares hw hcheck
  | ok r =>
      rw [hcheck] at herr
      dsimp only at herr
      cases hslot : g.checkSlot (g.slotState h.domain kind) r h with
      | error status' =>
          rw [hslot] at herr
          obtain rfl := Except.error.inj (congrArg Prod.fst herr)
          exact checkSlot_spares hslot
      | ok a =>
          rw [hslot] at herr
          cases congrArg Prod.fst herr

/-- The publication of a publisher that is welcome is not refused for its
registration. -/
theorem yields_ingest_spares (hvalid : (K.validate (digested K snapshot)).Spares)
    (hw : g.isOpen = true → g.Welcomes (K.header (digested K snapshot))) :
    Yields (ingest K g snapshot) fun r => r.1.status.Spares := by
  unfold ingest
  dsimp only
  split
  · exact yields_pure hvalid
  · split
    next hlocked => exact yields_pure (ingestLocked_spares hw hlocked)
    · split
      · exact yields_pure spares_success
      · refine yields_persistState_spares.bind fun ⟨saveStatus, g'⟩ hstatus => ?_
        dsimp only at hstatus ⊢
        split
        · exact yields_pure spares_success
        · exact yields_pure hstatus

end Governor

/-! ## Runs -/

section

variable {P P' : FabricEpoch → List PublisherRegistration → Prop} {C : Step → Prop} {b : DurableState}
  {rs : List AuditRecord} {g : Governor} {s : System} {disk : Disk}

/-- A runtime that is opened on an empty directory. -/
theorem founds_dating (hP : P ⟨1⟩ []) : Founds C (Dating P) := by
  intro t options policy g _ _ hstarts _ _
  have hepoch : g.state.epoch = ⟨1⟩ := (congrArg (·.epoch) hstarts.core :)
  have hpublishers : g.state.publishers = [] := (congrArg (·.publishers) hstarts.core :)
  have haudit : g.state.audit = [] := hstarts.audit
  have hhistory : DatedBy g.state.epoch g.state.audit := by
    rw [haudit]
    exact List.forall_mem_nil _
  refine ⟨⟨?_, ?_, List.forall_mem_nil _, hhistory⟩, rfl, rfl, hhistory⟩
  · rw [hepoch]
    rfl
  · rw [hepoch, hpublishers]
    exact hP

/-- What holds of the registrations of a runtime whose books are in the state
file. -/
theorem Filed.dating (h : Filed (Dated P) (Dating P) b rs s) (hopen : s.governor.isOpen = true)
    (hP : P' s.governor.state.epoch s.governor.state.publishers) :
    Filed (Dated P') (Dating P') b rs s := by
  obtain ⟨hlog, hwarm⟩ := h.warm hopen
  rw [hwarm.epoch, hwarm.publishers] at hP
  have hdated : Dated P' b rs := ⟨hwarm.dated.valid, hP, hwarm.dated.journal, hwarm.dated.audit⟩
  exact ⟨h.saved, h.policy, h.framed, hdated, fun _ =>
    ⟨hlog, hdated, hwarm.epoch, hwarm.publishers, hwarm.history⟩⟩

theorem Dating.respected (h : Dating P b rs g) : P g.state.epoch g.state.publishers := by
  rw [h.epoch, h.publishers]
  exact h.dated.publishers

end

theorem journals_of_not_failsWrite {t : Step} (h : ¬ t.FailsWrite) : t.Journals := fun hc hfails => h (.inr ⟨hc, hfails⟩)

/-- A run without failed writes keeps every registration that is not fenced in
the epoch. -/
theorem enrolled_of_run {disk : Disk} {ts : List Step} {s : System} (hrun : SessionRun disk ts s)
    (hstate : disk .state = none) (hjournal : disk .journal = none)
    (hwrites : ∀ t ∈ ts, ¬ t.FailsWrite) (hopen : s.governor.isOpen = true) :
    ∃ b rs, Filed (Dated Enrolled) (Dating Enrolled) b rs s := by
  have hnone : Enrolled ⟨1⟩ [] := List.forall_mem_nil _
  rcases respects_enrolled.upkeep.run (@founds_dating _ (fun t => ¬ t.LosesWrite) hnone) hrun hstate hjournal
    (fun t ht h => hwrites t ht (.inl h)) (fun t ht => (journals_of_not_failsWrite (hwrites t ht)).clean) with
    hunused | hfiled
  · rw [hunused.isOpen] at hopen
    cases hopen
  · exact hfiled

/-- A publisher that was admitted is so until it is dismissed. -/
theorem admits_of_run {disk : Disk} {us vs : List Step} {t : Step} {s : System} {publisher : PublisherId}
    {incarnation : IncarnationId} {epoch : FabricEpoch} (hus : SessionRun disk us t.before)
    (hvs : Run System.step t.after vs s) (hstate : disk .state = none) (hjournal : disk .journal = none)
    (hwrites : ∀ u ∈ us ++ [t] ++ vs, ¬ u.FailsWrite) (ht : t.Enrolls publisher incarnation epoch)
    (hkept : ∀ v ∈ vs, ¬ v.Dismisses publisher) (hopen : s.governor.isOpen = true) :
    Enrolled s.governor.state.epoch s.governor.state.publishers ∧
      Admits publisher incarnation s.governor.state.publishers := by
  have hbefore : SessionRun disk (us ++ [t]) t.after := hus.snoc t.label
  rw [List.forall_mem_append] at hwrites
  obtain ⟨hisOpen, hadmits⟩ := ht.admits
  obtain ⟨b, rs, hfiled⟩ := enrolled_of_run hbefore hstate hjournal hwrites.1 hisOpen
  have henrolled := (hfiled.warm hisOpen).2.respected
  obtain ⟨b', rs', hfiled'⟩ := respects_admits.upkeep.of_run hbefore hvs
    (hfiled.dating hisOpen ⟨henrolled, hadmits⟩)
    (fun v hv => ⟨fun h => hwrites.2 v hv (.inl h), hkept v hv⟩)
    fun v hv => (journals_of_not_failsWrite (hwrites.2 v hv)).clean
  exact (hfiled'.warm hopen).2.respected

theorem not_failsWrite {t : Step} (h : ¬ t.LosesWrite) (hc : t.command.journals = false) :
    ¬ t.FailsWrite := by
  rintro (hlost | ⟨hjournals, _⟩)
  · exact h hlost
  · rw [hc] at hjournals
    cases hjournals

end Oversub
