import Oversub.Runtime.Room

/-!
# Oversub.Runtime.Control

Control operations that fail.  Each of them puts a changed runtime in place and
then saves it, so a refusal leaves everything as it was, and a save that fails
leaves the change behind.
-/

namespace Oversub

open Crash Files Trace

namespace Governor

/-! ## What a control operation saves -/

/-- The runtime a control operation is about to save, if it gets so far. -/
def staged (g : Governor) : Command → Option Governor
  | .installPolicy policy tick =>
      if !g.isOpen then none
      else if !g.accepting then none
      else
        let g := g.observing tick
        let current := g.state.policy
        if nextPolicyGeneration current = 0 then none
        else
          let next := stampedPolicy current policy
          if current.generation.valid && policyContentDigest current = policyContentDigest next then none
          else if !(validatePolicy next).isOk then none else some (g.withPolicy next)
  | .advanceEpoch next =>
      if !g.isOpen then none
      else if !next.valid ∨ next.value ≤ g.state.epoch.value then none
      else some (g.withEpoch next)
  | .registerPublisher publisher incarnation epoch tick =>
      if !g.isOpen then none
      else if !g.accepting then none
      else if !publisher.valid || !incarnation.valid then none
      else if !epoch.valid ∨ epoch.value ≠ g.state.epoch.value then none
      else
        let g := g.observing tick
        match g.registration publisher with
        | some r =>
            if r.incarnation = incarnation then
              if r.fenced then some (g.modifyRegistration publisher (g.admittedAs incarnation epoch)).marked
              else none
            else none
        | none =>
            if kMaxPublishers ≤ g.state.publishers.length then none
            else
              let r : PublisherRegistration :=
                { publisher, incarnation, epoch, registeredTick := g.clock.tick }
              let g := { g with state := { g.state with publishers := g.state.publishers ++ [r] } }
              some g.marked
  | .adoptIncarnation publisher incarnation epoch tick =>
      if !g.isOpen then none
      else if !g.accepting then none
      else if !publisher.valid || !incarnation.valid || !epoch.valid then none
      else if epoch.value ≠ g.state.epoch.value then none
      else
        let g := g.observing tick
        match g.registration publisher with
        | none => none
        | some r =>
            if r.incarnation = incarnation ∧ r.fenced = false ∧ r.epoch.value = epoch.value then none
            else
              some ((g.modifyRegistration publisher (g.admittedAs incarnation epoch)).flagPublisher
                publisher).marked
  | .fencePublisher publisher reason =>
      if !g.isOpen then none
      else
        match g.registration publisher with
        | none => none
        | some _ =>
            some (g.modifyRegistration publisher fun r => { r with fenced := true, fenceReason := reason }).marked
  | _ => none

/-- What decisions are made under: the policy, the epoch, the registrations, the
state of the domains and what the slots hold. -/
structure Authority where
  policy : OversubscriptionPolicy
  epoch : FabricEpoch
  publishers : List PublisherRegistration
  domains : List DomainRuntimeState
  contents : List (Option CapacitySnapshot × Option ReservationSnapshot × Option AdmissionSnapshot × Bool)

def authority (g : Governor) : Authority where
  policy := g.state.policy
  epoch := g.state.epoch
  publishers := g.state.publishers
  domains := g.state.domains
  contents := g.slots.map fun slot => (slot.capacity, slot.reservations, slot.admissions, slot.hasContent)

/-- The control operations. -/
inductive Controls : Command → Prop
  | install (policy : OversubscriptionPolicy) (tick : UInt64) : Controls (.installPolicy policy tick)
  | advance (next : FabricEpoch) : Controls (.advanceEpoch next)
  | register (publisher : PublisherId) (incarnation : IncarnationId) (epoch : FabricEpoch) (tick : UInt64) :
      Controls (.registerPublisher publisher incarnation epoch tick)
  | adopt (publisher : PublisherId) (incarnation : IncarnationId) (epoch : FabricEpoch) (tick : UInt64) :
      Controls (.adoptIncarnation publisher incarnation epoch tick)
  | fence (publisher : PublisherId) (reason : Code ReasonCode) : Controls (.fencePublisher publisher reason)

/-- A publisher is fenced for the reason it was fenced for already. -/
def Refences (g : Governor) (c : Command) : Prop :=
  ∃ publisher reason r, c = .fencePublisher publisher reason ∧ g.registration publisher = some r ∧
    r.fenced = true ∧ r.fenceReason = reason

section

variable {g g' x : Governor} {c : Command}

theorem authority_congr (h : g'.core = x.core) : g'.authority = x.authority :=
  core_congr authority (fun _ => rfl) h

theorem authority_observing {tick : UInt64} : (g.observing tick).authority = g.authority :=
  authority_congr core_observing

/-- A call saves what it has staged, or refuses. -/
inductive Stages (g : Governor) (c : Command) (p : Storage (Status × Governor)) : Prop
  | saves (x : Governor) (hx : g.staged c = some x) (hp : p = x.persistState true)
  | refuses (status : Status) (x : Governor) (hx : g.staged c = none) (hsame : x.authority = g.authority)
      (hp : p = pure (status, x))

theorem stages_installPolicy {policy : OversubscriptionPolicy} {tick : UInt64} :
    Stages g (.installPolicy policy tick) (g.installPolicy policy tick) := by
  unfold installPolicy
  dsimp only
  split
  next h => exact .refuses _ _ (by simp only [staged, if_pos h]) rfl rfl
  next hopen =>
  split
  next h => exact .refuses _ _ (by simp only [staged, if_neg hopen, if_pos h]) rfl rfl
  next haccepting =>
  split
  next h => exact .refuses _ _ (by simp only [staged, if_neg hopen, if_neg haccepting, if_pos h]) authority_observing rfl
  next hnext =>
  split
  next h =>
    exact .refuses _ _ (by simp only [staged, if_neg hopen, if_neg haccepting, if_neg hnext, if_pos h])
      authority_observing rfl
  next hcontent =>
  split
  next h =>
    exact .refuses _ _ (by
      simp only [staged, if_neg hopen, if_neg haccepting, if_neg hnext, if_neg hcontent, if_pos h])
      authority_observing rfl
  next h =>
    exact .saves _ (by
      simp only [staged, if_neg hopen, if_neg haccepting, if_neg hnext, if_neg hcontent, if_neg h]) rfl

theorem stages_advanceEpoch {next : FabricEpoch} : Stages g (.advanceEpoch next) (g.advanceEpoch next) := by
  unfold advanceEpoch
  split
  next h => exact .refuses _ _ (by simp only [staged, if_pos h]) rfl rfl
  next hopen =>
  split
  next h => exact .refuses _ _ (by simp only [staged, if_neg hopen, if_pos h]) rfl rfl
  next h => exact .saves _ (by simp only [staged, if_neg hopen, if_neg h]) rfl

theorem stages_registerPublisher {publisher : PublisherId} {incarnation : IncarnationId} {epoch : FabricEpoch}
    {tick : UInt64} : Stages g (.registerPublisher publisher incarnation epoch tick)
      (g.registerPublisher publisher incarnation epoch tick) := by
  unfold registerPublisher
  dsimp only
  split
  next h => exact .refuses _ _ (by simp only [staged, if_pos h]) rfl rfl
  next hopen =>
  split
  next h => exact .refuses _ _ (by simp only [staged, if_neg hopen, if_pos h]) rfl rfl
  next haccepting =>
  split
  next h => exact .refuses _ _ (by simp only [staged, if_neg hopen, if_neg haccepting, if_pos h]) rfl rfl
  next hvalid =>
  split
  next h =>
    exact .refuses _ _ (by simp only [staged, if_neg hopen, if_neg haccepting, if_neg hvalid, if_pos h]) rfl rfl
  next hepoch =>
  cases hr : (g.observing tick).registration publisher with
  | some r =>
      dsimp only
      split
      next hsame =>
        split
        next h =>
          exact .saves _ (by
            simp only [staged, if_neg hopen, if_neg haccepting, if_neg hvalid, if_neg hepoch, hr, if_pos hsame,
              if_pos h]) rfl
        next h =>
          exact .refuses _ _ (by
            simp only [staged, if_neg hopen, if_neg haccepting, if_neg hvalid, if_neg hepoch, hr, if_pos hsame,
              if_neg h]) authority_observing rfl
      next h =>
        exact .refuses _ _ (by
          simp only [staged, if_neg hopen, if_neg haccepting, if_neg hvalid, if_neg hepoch, hr, if_neg h])
          authority_observing rfl
  | none =>
      dsimp only
      split
      next h =>
        exact .refuses _ _ (by
          simp only [staged, if_neg hopen, if_neg haccepting, if_neg hvalid, if_neg hepoch, hr, if_pos h])
          authority_observing rfl
      next h =>
        exact .saves _ (by
          simp only [staged, if_neg hopen, if_neg haccepting, if_neg hvalid, if_neg hepoch, hr, if_neg h]) rfl

theorem stages_adoptIncarnation {publisher : PublisherId} {incarnation : IncarnationId} {epoch : FabricEpoch}
    {tick : UInt64} : Stages g (.adoptIncarnation publisher incarnation epoch tick)
      (g.adoptIncarnation publisher incarnation epoch tick) := by
  unfold adoptIncarnation
  dsimp only
  split
  next h => exact .refuses _ _ (by simp only [staged, if_pos h]) rfl rfl
  next hopen =>
  split
  next h => exact .refuses _ _ (by simp only [staged, if_neg hopen, if_pos h]) rfl rfl
  next haccepting =>
  split
  next h => exact .refuses _ _ (by simp only [staged, if_neg hopen, if_neg haccepting, if_pos h]) rfl rfl
  next hvalid =>
  split
  next h =>
    exact .refuses _ _ (by simp only [staged, if_neg hopen, if_neg haccepting, if_neg hvalid, if_pos h]) rfl rfl
  next hepoch =>
  cases hr : (g.observing tick).registration publisher with
  | none =>
      exact .refuses _ _ (by
        simp only [staged, if_neg hopen, if_neg haccepting, if_neg hvalid, if_neg hepoch, hr])
        authority_observing rfl
  | some r =>
      dsimp only
      split
      next h =>
        exact .refuses _ _ (by
          simp only [staged, if_neg hopen, if_neg haccepting, if_neg hvalid, if_neg hepoch, hr, if_pos h])
          authority_observing rfl
      next h =>
        exact .saves _ (by
          simp only [staged, if_neg hopen, if_neg haccepting, if_neg hvalid, if_neg hepoch, hr, if_neg h]) rfl

theorem stages_fencePublisher {publisher : PublisherId} {reason : Code ReasonCode} :
    Stages g (.fencePublisher publisher reason) (g.fencePublisher publisher reason) := by
  unfold fencePublisher
  split
  next h => exact .refuses _ _ (by simp only [staged, if_pos h]) rfl rfl
  next hopen =>
  cases hr : g.registration publisher with
  | none => exact .refuses _ _ (by simp only [staged, if_neg hopen, hr]) rfl rfl
  | some r => exact .saves _ (by simp only [staged, if_neg hopen, hr]) rfl

/-! ## What a saved change changes -/

theorem nextPolicyGeneration_ne {policy : OversubscriptionPolicy} :
    nextPolicyGeneration policy ≠ policy.generation.value := by
  unfold nextPolicyGeneration
  split
  next h => exact succ_ne _
  next h =>
    intro heq
    rw [Gen.valid, ← heq] at h
    exact h rfl

/-- A registration that is rewritten otherwise changes the table. -/
theorem publishers_modifyRegistration {publisher : PublisherId} {r : PublisherRegistration}
    {f : PublisherRegistration → PublisherRegistration} (hf : ∀ r, (f r).publisher = r.publisher)
    (hr : g.registration publisher = some r)
    (hsame : (g.modifyRegistration publisher f).state.publishers = g.state.publishers) : f r = r := by
  have hget : (g.modifyRegistration publisher f).registration publisher = some (f r) := by
    have hmodify : (g.modifyRegistration publisher f).registration publisher =
        (g.registration publisher).map f := Table.get_modify fun a ha => (hf a).trans ha
    rw [hmodify, hr, Option.map_some]
  have hkeep : (g.modifyRegistration publisher f).registration publisher = g.registration publisher :=
    congrArg (Table.get (fun r : PublisherRegistration => r.publisher) publisher) hsame
  rw [hget, hr] at hkeep
  exact Option.some.inj hkeep

/-- What a control operation saves has the authority there was before only where
a publisher is fenced again. -/
theorem staged_same (hc : Controls c) (hx : g.staged c = some x) : x.authority = g.authority ↔ Refences g c := by
  cases hc with
  | install policy tick =>
      simp only [staged] at hx
      split at hx
      · cases hx
      split at hx
      · cases hx
      split at hx
      · cases hx
      split at hx
      · cases hx
      split at hx
      · cases hx
      cases hx
      refine iff_of_false (fun hsame => ?_) nofun
      have hpolicy := congrArg (·.policy.generation.value) hsame
      have hobserving := congrArg (·.policy) (@authority_observing g tick)
      exact nextPolicyGeneration_ne (hpolicy.trans (congrArg (·.generation.value) hobserving.symm))
  | advance next =>
      simp only [staged] at hx
      split at hx
      · cases hx
      split at hx
      · cases hx
      next hnext =>
      cases hx
      refine iff_of_false (fun hsame => ?_) nofun
      have hepoch : next = g.state.epoch := congrArg (·.epoch) hsame
      rw [hepoch] at hnext
      exact hnext (.inr (UInt64.le_refl _))
  | register publisher incarnation epoch tick =>
      simp only [staged] at hx
      split at hx
      · cases hx
      split at hx
      · cases hx
      split at hx
      · cases hx
      split at hx
      · cases hx
      refine iff_of_false (fun hsame => ?_) nofun
      replace hsame := hsame.trans (@authority_observing g tick).symm
      cases hr : (g.observing tick).registration publisher with
      | none =>
          simp only [hr] at hx
          split at hx
          · cases hx
          cases hx
          have hlength := congrArg (·.publishers.length) hsame
          simp [authority, marked] at hlength
      | some r =>
          simp only [hr] at hx
          split at hx
          · split at hx
            next hfenced =>
              cases hx
              have hf := publishers_modifyRegistration (f := (g.observing tick).admittedAs incarnation epoch)
                (fun _ => rfl) hr (congrArg (·.publishers) hsame)
              rw [← hf] at hfenced
              cases hfenced
            · cases hx
          · cases hx
  | adopt publisher incarnation epoch tick =>
      simp only [staged] at hx
      split at hx
      · cases hx
      split at hx
      · cases hx
      split at hx
      · cases hx
      split at hx
      · cases hx
      refine iff_of_false (fun hsame => ?_) nofun
      replace hsame := hsame.trans (@authority_observing g tick).symm
      cases hr : (g.observing tick).registration publisher with
      | none =>
          simp only [hr] at hx
          cases hx
      | some r =>
          simp only [hr] at hx
          split at hx
          · cases hx
          next hnew =>
            cases hx
            have hf := publishers_modifyRegistration (f := (g.observing tick).admittedAs incarnation epoch)
              (fun _ => rfl) hr (congrArg (·.publishers) hsame)
            rw [← hf] at hnew
            exact hnew ⟨rfl, rfl, rfl⟩
  | fence publisher reason =>
      simp only [staged] at hx
      split at hx
      · cases hx
      cases hr : g.registration publisher with
      | none =>
          simp only [hr] at hx
          cases hx
      | some r =>
          simp only [hr] at hx
          cases hx
          constructor
          · intro hsame
            have hf := publishers_modifyRegistration
              (f := fun r => { r with fenced := true, fenceReason := reason }) (fun _ => rfl) hr
              (congrArg (·.publishers) hsame)
            refine ⟨publisher, reason, r, rfl, hr, ?_, ?_⟩
            · rw [← hf]
            · rw [← hf]
          · intro ⟨publisher', reason', r', hcommand, hr', hfenced, hreason⟩
            cases hcommand
            obtain rfl := Option.some.inj (hr.symm.trans hr')
            have hf : ({ r with fenced := true, fenceReason := reason } : PublisherRegistration) = r := by
              rw [← hfenced, ← hreason]
            have hkeep : (g.modifyRegistration publisher fun r =>
                { r with fenced := true, fenceReason := reason }).state.publishers = g.state.publishers :=
              Table.modify_of_get hr hf
            rw [authority, authority, marked, hkeep]
            rfl

end

section

variable {g : Governor} {c : Command}

/-- What a control operation replies, and the authority after it, come from the
save of what it has staged, if it staged anything. -/
theorem stages_of_controls (hc : Controls c) : ∃ p, Stages g c p ∧ c.perform g = replying .status p := by
  cases hc with
  | install => exact ⟨_, stages_installPolicy, rfl⟩
  | advance => exact ⟨_, stages_advanceEpoch, rfl⟩
  | register => exact ⟨_, stages_registerPublisher, rfl⟩
  | adopt => exact ⟨_, stages_adoptIncarnation, rfl⟩
  | fence => exact ⟨_, stages_fencePublisher, rfl⟩

/-- A control operation whose save fails keeps its change. -/
theorem perform_unsaved_control {x : Governor} {disk : Disk} (hc : Controls c) (hx : g.staged c = some x)
    (hs : Savable x) : System.perform ⟨g, disk⟩ ⟨c, [.fails 0]⟩ =
      (some (.status x.unwritten), ⟨x.stamped, disk⟩) := by
  obtain ⟨p, hstages, hperform⟩ := stages_of_controls hc
  cases hstages with
  | refuses status y hnone => rw [hnone] at hx; cases hx
  | saves y hy hp =>
      obtain rfl := Option.some.inj (hy.symm.trans hx)
      have hreturns : Returns (c.perform g) ⟨disk, [.fails 0]⟩ (.status y.unwritten, y.stamped) ⟨disk, []⟩ := by
        rw [hperform, hp]
        exact returns_replying (returns_persistState hs)
      exact System.perform_of_returns hreturns

end

/-- **Control operations that fail** leave the authority as it was exactly when
they were refused, or fence a publisher again. -/
theorem control_atomic_iff {s : System} {c : System.Call} {status : Status} (hc : Controls c.command)
    (hreply : (s.perform c).1 = some (.status status)) (hbad : status.isOk = false) :
    (s.step c).governor.authority = s.governor.authority ↔
      s.governor.staged c.command = none ∨ Refences s.governor c.command := by
  obtain ⟨p, hstages, hperform⟩ := stages_of_controls (g := s.governor) hc
  obtain ⟨x', w, hp, hstep⟩ := System.perform_eq_some hreply
  have hgovernor : (s.step c).governor = x' := by rw [hstep]
  rw [hgovernor]
  cases hstages with
  | refuses status' x hnone hsame hpure =>
      rw [hperform, hpure] at hp
      cases hp
      exact iff_of_true hsame (.inl hnone)
  | saves x hx hpersist =>
      have hyields : Yields (c.command.perform s.governor) fun r => r.2.core = x.core := by
        rw [hperform, hpersist]
        exact yields_persistState.bind fun r hr => yields_pure hr
      have hcore : x'.core = x.core := (hyields _).returned hp
      have hsome : s.governor.staged c.command ≠ none := by
        rw [hx]
        exact nofun
      rw [authority_congr hcore, staged_same hc hx]
      exact (or_iff_right hsome).symm

/-- The epoch of a runtime that has just started is advanced, and the save
fails. -/
theorem perform_unsaved_epoch (disk : Disk) : System.perform ⟨started samplePolicy, disk⟩
    ⟨.advanceEpoch ⟨2⟩, [.fails 0]⟩ =
      (some (.status ((started samplePolicy).withEpoch ⟨2⟩).unwritten),
        ⟨((started samplePolicy).withEpoch ⟨2⟩).stamped, disk⟩) := by
  have hroomy : Roomy 100 ((started samplePolicy).withEpoch ⟨2⟩) := (roomy_started sample_checks.1).withEpoch
  exact perform_unsaved_control (.advance ⟨2⟩) rfl hroomy.savable

/-- An epoch advance that reports failure has advanced the epoch. -/
theorem control_not_atomic : ¬ ∀ (disk : Disk) (ts : List Step) (s : System) (c : System.Call) (status : Status),
    SessionRun disk ts s → Controls c.command → (s.perform c).1 = some (.status status) →
    status.isOk = false → (s.step c).governor.authority = s.governor.authority := by
  intro h
  obtain ⟨disk, hstarted⟩ := sample_started
  have hrun : SessionRun emptyDisk _ _ := Run.nil.snoc (openCall samplePolicy)
  rw [hstarted] at hrun
  have hperform := perform_unsaved_epoch disk
  have hsame := h _ _ _ ⟨.advanceEpoch ⟨2⟩, [.fails 0]⟩ _ hrun (.advance ⟨2⟩) (congrArg Prod.fst hperform) rfl
  rw [System.step_of_perform hperform] at hsame
  have hepoch : (2 : UInt64) = 1 := congrArg (·.epoch.value) hsame
  exact absurd hepoch (by decide)

/-- The condition tells an advance whose save fails from one that is refused. -/
theorem control_atomic_sample :
    (System.step ⟨started samplePolicy, emptyDisk⟩ ⟨.advanceEpoch ⟨2⟩, [.fails 0]⟩).governor.authority ≠
        (started samplePolicy).authority ∧
      (System.step ⟨started samplePolicy, emptyDisk⟩ ⟨.advanceEpoch ⟨1⟩, []⟩).governor.authority =
        (started samplePolicy).authority := by
  constructor
  · have hiff := @control_atomic_iff ⟨started samplePolicy, emptyDisk⟩ ⟨.advanceEpoch ⟨2⟩, [.fails 0]⟩ _
      (.advance ⟨2⟩) (congrArg Prod.fst (perform_unsaved_epoch emptyDisk)) rfl
    intro hsame
    rcases hiff.mp hsame with hnone | ⟨publisher, reason, r, hcommand, _⟩
    · cases hnone
    · cases hcommand
  · exact (@control_atomic_iff ⟨started samplePolicy, emptyDisk⟩ ⟨.advanceEpoch ⟨1⟩, []⟩ _ (.advance ⟨1⟩) rfl
      rfl).mpr (.inl rfl)

end Governor

end Oversub
