import Oversub.Runtime.Restart

/-!
# Oversub.Runtime.Books

The books of a runtime: its epoch, its policy, its publishers and the
bookkeeping of its evidence.  A call that changes them saves them before it
reports success, so as long as no such save is reported as lost, the books in
the state file are those of the runtime, and a runtime that is opened goes on
with the books of the one before it.
-/

namespace Oversub

open Crash Files Trace

/-! ## Books -/

/-- The bookkeeping of a slot, as the state file has it. -/
def DurableState.slotState (b : DurableState) (domain : OversubscriptionDomainId)
    (kind : EvidenceKind) : EvidenceSlotState :=
  (Table.get (fun e => (e.domain, e.kind)) (slotKey domain kind) b.evidence).getD
    { domain, kind := kind.code }

/-- Two states with the same slots, but for the flags. -/
def SameSlots (b b' : DurableState) : Prop :=
  ∀ domain kind, (b'.slotState domain kind).bare = (b.slotState domain kind).bare

/-- The books of a runtime are those of a state. -/
structure Kept (b : DurableState) (g : Governor) : Prop where
  incarnation : g.state.incarnation = b.incarnation
  epoch : g.state.epoch = b.epoch
  policy : g.state.policy = b.policy
  publishers : g.state.publishers = b.publishers
  slots : ∀ domain kind, (g.slotState domain kind).bare = (b.slotState domain kind).bare

/-- The books of a runtime that goes on with those of a state. -/
structure Rebooted (b b' : DurableState) : Prop where
  incarnation : b'.incarnation.value = b.incarnation.value + 1
  epoch : b.epoch.value ≤ b'.epoch.value
  policy : b'.policy = b.policy
  publishers : b'.publishers = b.publishers
  slots : SameSlots b b'

section

variable {b : DurableState} {g g' : Governor} {disk : Disk}

theorem Kept.trans (h : Kept b g) (h' : Governor.SameBooks g g') : Kept b g' where
  incarnation := h'.incarnation.trans h.incarnation
  epoch := h'.epoch.trans h.epoch
  policy := h'.policy.trans h.policy
  publishers := h'.publishers.trans h.publishers
  slots domain kind := by
    rw [h'.slots]
    exact h.slots domain kind

/-- Flags on the slots leave them the same slots. -/
theorem sameSlots_flagged {b' : DurableState}
    (h : b'.evidence = b.evidence.map fun e => { e with revalidationRequired := true }) :
    SameSlots b b' := by
  intro domain kind
  unfold DurableState.slotState
  rw [h, Table.get_made]
  cases Table.get (fun e => (e.domain, e.kind)) (slotKey domain kind) b.evidence with
  | none => rfl
  | some e => rfl

theorem SameSlots.trans {b' b'' : DurableState} (h : SameSlots b b') (h' : SameSlots b' b'') :
    SameSlots b b'' := fun domain kind => (h' domain kind).trans (h domain kind)

/-- A state that has the slots of a runtime. -/
theorem slotState_of_evidence (h : b.evidence = g.slots.map (·.state))
    {domain : OversubscriptionDomainId} {kind : EvidenceKind} :
    b.slotState domain kind = g.slotState domain kind := by
  unfold DurableState.slotState Governor.slotState
  rw [h, Table.get_made]
  have hfind : Table.get (fun slot : EvidenceSlot => (slot.state.domain, slot.state.kind))
      (slotKey domain kind) g.slots = g.findSlot domain kind := rfl
  rw [hfind]
  cases g.findSlot domain kind with
  | none => rfl
  | some slot => rfl

/-- A runtime that was saved has its books in the state file. -/
theorem Governor.Stamped.kept (h : g.Stamped disk) : Kept g.state g :=
  ⟨rfl, rfl, rfl, rfl, fun _ _ => congrArg _ (slotState_of_evidence h.evidence).symm⟩

end

/-! ## Opening -/

/-- What is loaded has the books of the state file. -/
theorem Loads.books {options : StoreOptions} {b state : DurableState} {disk disk' : Disk}
    (h : Loads options disk state disk') (hsaved : Governor.SavedAs b disk)
    (hpolicy : (validatePolicy b.policy).isOk = true) :
    state.incarnation = b.incarnation ∧ b.epoch.value ≤ state.epoch.value ∧
      state.policy = b.policy ∧ state.publishers = b.publishers ∧ SameSlots b state := by
  obtain ⟨bytes, decoded, records, hbytes, hdecoded, _, rfl⟩ := h.found
  obtain ⟨payload, hpayload, hlen, hfile⟩ := hsaved
  obtain rfl := Option.some.inj (hbytes.symm.trans hfile)
  obtain ⟨_, _, _, rfl⟩ := (decodeStateFile_saved hpayload hlen hpolicy).mp hdecoded
  obtain ⟨hsame, hincarnation⟩ := recoverState_frame options decoded records
  obtain ⟨hpublishers, hevidence, hepoch⟩ := recoverState_books options decoded records
  exact ⟨hincarnation, hepoch, hsame, hpublishers, sameSlots_flagged hevidence⟩

namespace Governor

variable {g g' : Governor} {options : GovernorOptions} {policy : OversubscriptionPolicy}
  {disk disk' : Disk} {b : DurableState}

theorem SavedAs.congr (h : SavedAs b disk) (hdisk : disk' .state = disk .state) : SavedAs b disk' := by
  obtain ⟨bytes, hbytes, hlen, hfile⟩ := h
  exact ⟨bytes, hbytes, hlen, hdisk.trans hfile⟩

/-- A runtime that goes live goes on with the books of the state file. -/
theorem Boots.books (h : Boots g options policy disk g' disk') (hclosed : g.isOpen = false)
    (hopen : g'.isOpen = true) (hsaved : SavedAs b disk)
    (hpolicy : (validatePolicy b.policy).isOk = true) : Stamped g' disk' ∧ Rebooted b g'.state := by
  cases h with
  | refused hopen => exact absurd hopen (by simp [hclosed])
  | failed _ hg => exact absurd hopen (by simp [hg])
  | live _ hbooted hstarts _ _ hstamped =>
      refine ⟨hstamped, ?_⟩
      cases hbooted with
      | fresh hnone =>
          obtain ⟨_, _, _, hfile⟩ := hsaved
          rw [hnone] at hfile
          cases hfile
      | @loaded state _ hl hnext =>
          obtain ⟨hincarnation, hepoch, hsame, hpublishers, hslots⟩ := hl.books hsaved hpolicy
          have hcore := hstarts.core
          have hflagged : SameSlots state.rebooted g'.state := by
            refine sameSlots_flagged ?_
            rw [hstamped.evidence, hstarts.slots, List.map_map]
            rfl
          refine ⟨?_, ?_, ?_, ?_, ?_⟩
          · have hnew : g'.state.incarnation.value = state.incarnation.value + 1 :=
              (congrArg (·.incarnation.value) hcore :)
            rw [hnew, hincarnation]
          · have hnew : g'.state.epoch = if state.epoch.valid then state.epoch else ⟨1⟩ :=
              (congrArg (·.epoch) hcore :)
            rw [hnew]
            split
            · exact hepoch
            next hvalid =>
              have hzero : state.epoch.value = 0 := by simpa [FabricEpoch.valid] using hvalid
              rw [hzero] at hepoch
              exact UInt64.le_trans hepoch (by decide)
          · exact (congrArg (·.policy) hcore : _ = state.policy).trans hsame
          · exact (congrArg (·.publishers) hcore : _ = state.publishers).trans hpublishers
          · exact (hslots.trans (sameSlots_flagged rfl)).trans hflagged

/-- A runtime that does not go live leaves the state file. -/
theorem Boots.state_eq (h : Boots g options policy disk g' disk') (hopen : g'.isOpen = false) :
    disk' .state = disk .state := by
  cases h with
  | refused => rfl
  | live _ _ _ hfresh => exact absurd hfresh.isOpen (by simp [hopen])
  | failed _ _ hdisk => exact hdisk.state_eq

end Governor

/-! ## Runs -/

/-- A call that changed the books reported that it could not save them. -/
def Step.LosesWrite (t : Step) : Prop :=
  t.before.governor.isOpen = true ∧
    ¬ Governor.SameBooks t.before.governor t.after.governor ∧
      ∃ reply, t.reply = some reply ∧ reply.isOk = false

/-- A call that reports success has lost nothing. -/
theorem not_losesWrite {s : System} {c : System.Call} {reply : Reply} {s' : System}
    (h : s.perform c = (some reply, s')) (hok : reply.isOk = true) : ¬ Step.LosesWrite ⟨s, c⟩ := by
  intro ⟨_, _, reply', hreply, hbad⟩
  have hsame : (s.perform c).1 = some reply' := hreply
  rw [h] at hsame
  obtain rfl := Option.some.inj hsame
  simp [hok] at hbad

/-- Nor has one on a runtime that is closed. -/
theorem not_losesWrite_closed {s : System} {c : System.Call} (h : s.governor.isOpen = false) :
    ¬ Step.LosesWrite ⟨s, c⟩ := fun ⟨hopen, _⟩ => by simp [h] at hopen

/-- The state file has the books of the runtime. -/
structure OnFile (b : DurableState) (s : System) : Prop where
  saved : Governor.SavedAs b s.disk
  policy : (validatePolicy b.policy).isOk = true
  kept : s.governor.isOpen = true → Kept b s.governor

/-- What a step makes of the books. -/
inductive Turns (s : System) (c : System.Call) (b : DurableState) : DurableState → Prop
  | same : Turns s c b b
  | booted {b' : DurableState} (hclosed : s.governor.isOpen = false) (h : Rebooted b b') : Turns s c b b'
  | called {b' : DurableState} {reply : Reply} {x : Governor} (hc : c.command.opens = false)
      (hopen : s.governor.isOpen = true) (h : Kept b s.governor)
      (heffect : Governor.Effect s.governor c.command reply x)
      (hregisters : Governor.Registers s.governor c.command reply x.state.publishers)
      (h' : Kept b' x)
      (hend : (s.perform c).1 = some reply ∧ (s.step c).governor = x ∨ (s.perform c).1 = none) :
      Turns s c b b'

namespace System

variable {b : DurableState} {s : System} {c : Call}

/-- **The books** stay in the state file. -/
theorem onFile_step (h : OnFile b s) (hlive : s.governor.isOpen = true → s.governor.Live)
    (hlost : ¬ Step.LosesWrite ⟨s, c⟩) : ∃ b', OnFile b' (s.step c) ∧ Turns s c b b' := by
  cases hc : c.command.opens with
  | true =>
      obtain ⟨options, policy, hcommand⟩ := Command.opens_eq_true.mp hc
      obtain ⟨x, hx, hgovernor⟩ := open_cases hcommand
      cases hwas : s.governor.isOpen with
      | true =>
          obtain ⟨hg, hdisk⟩ := hx.same hwas
          refine ⟨b, ⟨?_, h.policy, fun hopen => ?_⟩, .same⟩
          · rw [hdisk]
            exact h.saved
          · rcases hgovernor with hx | ⟨_, hboot⟩
            · rw [hx, hg]
              exact h.kept hwas
            · rw [hboot] at hopen
              cases hopen
      | false =>
          cases hopen : x.isOpen with
          | true =>
              obtain ⟨hstamped, hrebooted⟩ := hx.books hwas hopen h.saved h.policy
              refine ⟨x.state, ⟨hstamped.saved, hrebooted.policy ▸ h.policy, fun hopen => ?_⟩,
                .booted hwas hrebooted⟩
              rcases hgovernor with hx | ⟨_, hboot⟩
              · rw [hx]
                exact hstamped.kept
              · rw [hboot] at hopen
                cases hopen
          | false =>
              refine ⟨b, ⟨h.saved.congr (hx.state_eq hopen), h.policy, fun hopen' => ?_⟩, .same⟩
              rcases hgovernor with hx | ⟨_, hboot⟩
              · rw [hx, hopen] at hopen'
                cases hopen'
              · rw [hboot] at hopen'
                cases hopen'
  | false =>
      obtain ⟨reply, x, hends, hend⟩ := s.step_ends c hc
      have hstamped (hopen : s.governor.isOpen = true) (hx : Governor.Stamped x (s.step c).disk) :
          ∃ b', OnFile b' (s.step c) ∧ Turns s c b b' := by
        refine ⟨x.state, ⟨hx.saved, hends.effect.policy hc (hlive hopen).policy, fun hopen' => ?_⟩,
          .called hc hopen (h.kept hopen) hends.effect hends.registers hx.kept ?_⟩
        · rcases hend with ⟨_, _, hg⟩ | ⟨_, hboot⟩
          · rw [hg]
            exact hx.kept
          · rw [hboot] at hopen'
            cases hopen'
        · exact hend.imp (fun ⟨hreply, _, hg⟩ => ⟨hreply, hg⟩) And.left
      rcases hends.state with hsame | ⟨hopen, hx⟩
      · rcases hend with ⟨hreply, hsettles, hg⟩ | ⟨hnone, hboot⟩
        · cases hwas : s.governor.isOpen with
          | false =>
              refine ⟨b, ⟨h.saved.congr hsame, h.policy, fun hopen => ?_⟩, .same⟩
              rw [hg] at hopen
              exact absurd (hends.effect.wasOpen hc hopen) (by simp [hwas])
          | true =>
              have hbooks : Governor.Stamped x (s.step c).disk ∨
                  Governor.SameBooks s.governor x := by
                cases hok : reply.isOk with
                | true => exact hsettles hok
                | false =>
                    by_cases hbooks : Governor.SameBooks s.governor x
                    · exact .inr hbooks
                    · refine absurd ⟨hwas, ?_, reply, hreply, hok⟩ hlost
                      have hafter : Step.after ⟨s, c⟩ = s.step c := rfl
                      rw [hafter, hg]
                      exact hbooks
              rcases hbooks with hx | hbooks
              · exact hstamped hwas hx
              · refine ⟨b, ⟨h.saved.congr hsame, h.policy, fun _ => ?_⟩, .same⟩
                rw [hg]
                exact (h.kept hwas).trans hbooks
        · refine ⟨b, ⟨h.saved.congr hsame, h.policy, fun hopen => ?_⟩, .same⟩
          rw [hboot] at hopen
          cases hopen
      · exact hstamped hopen hx

end System

/-- A runtime that is open has its books in the state file. -/
theorem onFile_of_run {disk : Disk} {ts : List Step} {s : System} (h : SessionRun disk ts s)
    (hlost : ∀ t ∈ ts, ¬ t.LosesWrite) (hopen : s.governor.isOpen = true) : ∃ b, OnFile b s := by
  induction h with
  | nil => cases hopen
  | @snoc ts t hrun c ih =>
      have hlost' : ∀ u ∈ ts, ¬ Step.LosesWrite u := fun u hu => hlost u (List.mem_append_left _ hu)
      cases hwas : t.governor.isOpen with
      | true =>
          obtain ⟨b, hb⟩ := ih hlost' hwas
          obtain ⟨b', hb', _⟩ := System.onFile_step hb (live_of_run hrun)
            (hlost _ (List.mem_append_right _ List.mem_cons_self))
          exact ⟨b', hb'⟩
      | false =>
          cases hc : c.command.opens with
          | true =>
              obtain ⟨options, policy, hcommand⟩ := Command.opens_eq_true.mp hc
              obtain ⟨x, hx, hgovernor⟩ := System.open_cases hcommand
              rcases hgovernor with hg | ⟨_, hboot⟩
              · rw [hg] at hopen
                have hstamped : Governor.Stamped x (t.step c).disk ∧
                    (validatePolicy x.state.policy).isOk = true := by
                  generalize (t.step c).disk = disk' at hx
                  cases hx with
                  | refused hopen => exact absurd hopen (by simp [hwas])
                  | live _ _ _ hfresh _ hstamped => exact ⟨hstamped, hfresh.policy⟩
                  | failed _ hg => exact absurd hopen (by simp [hg])
                refine ⟨x.state, hstamped.1.saved, hstamped.2, fun _ => ?_⟩
                rw [hg]
                exact hstamped.1.kept
              · rw [hboot] at hopen
                cases hopen
          | false =>
              obtain ⟨reply, x, hends, hend⟩ := t.step_ends c hc
              rcases hend with ⟨_, _, hg⟩ | ⟨_, hboot⟩
              · rw [hg] at hopen
                exact absurd (hends.effect.wasOpen hc hopen) (by simp [hwas])
              · rw [hboot] at hopen
                cases hopen

/-- What every turn of the books respects, a whole run does. -/
theorem OnFile.of_run {R : DurableState → DurableState → Prop} (hrefl : ∀ b, R b b)
    (htrans : ∀ {b b' b''}, R b b' → R b' b'' → R b b'')
    (hturn : ∀ {s c b b'}, Turns s c b b' → R b b') {disk : Disk} {ts us : List Step} {a s : System}
    {b : DurableState} (ha : SessionRun disk ts a) (hrun : Run System.step a us s)
    (hlost : ∀ u ∈ us, ¬ Step.LosesWrite u) (h : OnFile b a) : ∃ b', OnFile b' s ∧ R b b' := by
  induction hrun with
  | nil => exact ⟨b, h, hrefl b⟩
  | snoc hus c ih =>
      obtain ⟨b', hb', hle⟩ := ih fun u hu => hlost u (List.mem_append_left _ hu)
      obtain ⟨b'', hb'', hturns⟩ := System.onFile_step hb' (live_of_run (ha.append hus))
        (hlost _ (List.mem_append_right _ List.mem_cons_self))
      exact ⟨b'', hb'', htrans hle (hturn hturns)⟩

end Oversub
