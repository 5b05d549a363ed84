import Oversub.Runtime.Logs

/-!
# Oversub.Runtime.Upkeep

Invariants of a directory and its runtime over whole runs.  `Cold` is to hold
of the state in the state file and the records of the journal, whether or not
a runtime is open on them, and `Warm` of these and the runtime.  `Upkeep` is
what it takes: one condition for each way a step changes any of the three.
-/

namespace Oversub

open Crash Files Trace

/-- The state a runtime is opened with on a directory. -/
def DurableState.reopened (b : DurableState) (options : StoreOptions) (rs : List AuditRecord) :
    DurableState := (recoverState options b rs).1.rebooted

/-- What makes `Warm` hold of a runtime that is opened on an empty directory. -/
def Founds (C : Step → Prop) (Warm : DurableState → List AuditRecord → Governor → Prop) : Prop :=
  ∀ {t : Step} {options : GovernorOptions} {policy : OversubscriptionPolicy} {g : Governor}, C t →
    t.command = .openRuntime options policy →
      Governor.Starts options (Governor.freshState (Governor.initialPolicy policy)) g → g.Pristine →
        g.Stamped t.after.disk → Warm g.state [] g

/-- What keeps `Cold` and `Warm` up over the steps that satisfy `C`. -/
structure Upkeep (C : Step → Prop) (Cold : DurableState → List AuditRecord → Prop)
    (Warm : DurableState → List AuditRecord → Governor → Prop) : Prop where
  /-- The tail of the journal is cut off. -/
  recovered {t : Step} {options : GovernorOptions} {policy : OversubscriptionPolicy} {b : DurableState}
    {rs : List AuditRecord} (hC : C t) (hc : t.command = .openRuntime options policy) (h : Cold b rs) :
    Cold b (readable options.storeOptions 0 rs)
  /-- A runtime is opened on what there is. -/
  loaded {t : Step} {options : GovernorOptions} {policy : OversubscriptionPolicy} {b : DurableState}
    {rs : List AuditRecord} {g : Governor} (hC : C t) (hc : t.command = .openRuntime options policy)
    (h : Cold b rs)
    (hstarts : Governor.Starts options
      (b.reopened options.storeOptions (readable options.storeOptions 0 rs)) g) (hg : g.Pristine)
    (hstamped : g.Stamped t.after.disk) : Warm g.state (readable options.storeOptions 0 rs) g
  /-- The process ends. -/
  cold {b : DurableState} {rs : List AuditRecord} {g : Governor} (h : Warm b rs g) : Cold b rs
  /-- A call returns that saved nothing. -/
  called {t : Step} {b : DurableState} {rs : List AuditRecord} {reply : Reply} {x : Governor} (hC : C t)
    (hc : t.command.opens = false) (hquiet : t.command.journals = false)
    (h : Warm b rs t.before.governor)
    (hends : Governor.Ends t.before.governor t.command t.before.disk reply x t.after.disk)
    (hafter : t.after.governor = x)
    (hsince : x.decisionsSinceSave = t.before.governor.decisionsSinceSave)
    (hbooks : ¬ t.LosesWrite → Governor.SameBooks t.before.governor x) : Warm b rs x
  /-- A call saves the runtime it ends with. -/
  settled {t : Step} {b : DurableState} {rs : List AuditRecord} {reply : Reply} {x : Governor} (hC : C t)
    (hc : t.command.opens = false) (hquiet : t.command.journals = false)
    (h : Warm b rs t.before.governor)
    (hends : Governor.Ends t.before.governor t.command t.before.disk reply x t.after.disk)
    (hafter : t.after.governor = x ∨ t.after.governor = {}) (hstamped : x.Stamped t.after.disk) :
    Warm x.state rs x
  /-- An evaluation comes with its tick. -/
  ticking {b : DurableState} {rs : List AuditRecord} {g : Governor} {request : EvaluationRequest}
    (h : Warm b rs g) : Warm b rs (g.ticking request)
  /-- An evaluation finds the journal full. -/
  compacted {t : Step} {order : MapOrder} {wall : UInt64} {request : EvaluationRequest}
    {b : DurableState} {rs : List AuditRecord} {disk : Disk} (hC : C t)
    (hc : t.command = .evaluate order wall request)
    (h : Warm b rs (t.before.governor.ticking request))
    (hlog : (t.before.governor.ticking request).Journaling disk rs)
    (hfull : ¬ t.before.governor.store.HasRoom (t.before.governor.ruling order wall request).record)
    (hfits : SummariesFit (t.before.governor.ticking request).kept) :
    Warm b (t.before.governor.ticking request).kept (t.before.governor.ticking request).compacting
  /-- An evaluation is recorded. -/
  recorded {t : Step} {order : MapOrder} {wall : UInt64} {request : EvaluationRequest}
    {b : DurableState} {rs : List AuditRecord} {g : Governor} {disk : Disk} (hC : C t)
    (hc : t.command = .evaluate order wall request) (h : Warm b rs g) (hlog : g.Journaling disk rs)
    (hcore : g.core = t.before.governor.core)
    (hclock : g.clock = (t.before.governor.ticking request).clock)
    (hserves : t.before.governor.Serves request)
    (hroom : g.store.HasRoom (t.before.governor.ruling order wall request).record) :
    Warm b (rs ++ [(t.before.governor.ruling order wall request).record])
      ((g.journaled (t.before.governor.ruling order wall request).record).withRuling request.domain
        (t.before.governor.ruling order wall request))
  /-- A save of decisions is refused. -/
  unsaved {b : DurableState} {rs : List AuditRecord} {g : Governor} (h : Warm b rs g) : Warm b rs g.stamped
  /-- The decisions are saved. -/
  saved {b : DurableState} {rs : List AuditRecord} {g : Governor} (h : Warm b rs g) :
    Warm g.saved.state rs g.saved

/-! ## One step -/

/-- A directory with a state file and a journal, and the runtime on it. -/
structure Filed (Cold : DurableState → List AuditRecord → Prop)
    (Warm : DurableState → List AuditRecord → Governor → Prop) (b : DurableState)
    (rs : List AuditRecord) (s : System) : Prop where
  saved : Governor.SavedAs b s.disk
  policy : (validatePolicy b.policy).isOk = true
  framed : ∃ tail, Framed s.disk rs tail
  cold : Cold b rs
  warm : s.governor.isOpen = true → s.governor.Journaling s.disk rs ∧ Warm b rs s.governor

/-- A directory no runtime has been opened on. -/
structure Unused (s : System) : Prop where
  isOpen : s.governor.isOpen = false
  state : s.disk .state = none
  journal : s.disk .journal = none

/-- The writes of a step to the journal do not fail. -/
def Step.Journals (t : Step) : Prop := t.command.journals = true → ¬ SomeFails t.label.fates

/-- Where a write of a step to the journal fails, it leaves nothing behind. -/
def Step.Clean (t : Step) : Prop :=
  t.command.journals = true → World.Clean (⟨t.before.disk, t.label.fates⟩ : World FileName)

theorem Step.Journals.clean {t : Step} (h : t.Journals) : t.Clean := fun hjournals =>
  World.Reliable.clean (h hjournals)

section

variable {C : Step → Prop} {Cold : DurableState → List AuditRecord → Prop}
  {Warm : DurableState → List AuditRecord → Governor → Prop} {b : DurableState}
  {rs : List AuditRecord} {s : System} {c : System.Call} {disk disk' : Disk} {g g' : Governor}
  {options : GovernorOptions} {policy : OversubscriptionPolicy}

/-- The journal of a runtime that goes live. -/
theorem Governor.Starts.journaling {state : DurableState} {records : List AuditRecord}
    (h : Governor.Starts options state g) (hcounts : Counts g.store disk records)
    (hframed : Framed disk records []) (hjournal : disk' .journal = disk .journal) :
    g.Journaling disk' records := by
  have hjournals : g.store.Journals disk records := ⟨hframed, hcounts⟩
  refine ⟨hjournals.congr hjournal rfl rfl rfl, ?_⟩
  rw [h.store, h.configured]

/-- What a load finds in a directory with a state file and a journal. -/
theorem Loads.found_readable {options : StoreOptions} {state : DurableState} {tail : List UInt8}
    (h : Loads options disk state disk') (hsaved : Governor.SavedAs b disk)
    (hpolicy : (validatePolicy b.policy).isOk = true) (hframed : Framed disk rs tail) :
    state = (recoverState options b (readable options 0 rs)).1 ∧
      Recovers options disk (readable options 0 rs) disk' ∧ Framed disk' (readable options 0 rs) [] := by
  obtain ⟨bytes, decoded, records, hbytes, hdecoded, hrecovers, rfl⟩ := h.found
  obtain ⟨payload, hpayload, hlen, hfile⟩ := hsaved
  obtain rfl := Option.some.inj (hbytes.symm.trans hfile)
  obtain ⟨_, _, _, rfl⟩ := (decodeStateFile_saved hpayload hlen hpolicy).mp hdecoded
  obtain ⟨rfl, hframed'⟩ := hrecovers.framed hframed
  exact ⟨rfl, hrecovers, hframed'⟩

/-- A runtime that goes live on a directory with a state file. -/
theorem Upkeep.boots (h : Upkeep C Cold Warm) (hC : C ⟨s, c⟩) (hc : c.command = .openRuntime options policy)
    (hboots : Governor.Boots s.governor options policy s.disk g (s.step c).disk)
    (hclosed : s.governor.isOpen = false) (hsaved : Governor.SavedAs b s.disk)
    (hpolicy : (validatePolicy b.policy).isOk = true) {tail : List UInt8}
    (hframed : Framed s.disk rs tail) (hcold : Cold b rs) :
    ∃ b' rs', Filed Cold Warm b' rs' ⟨g, (s.step c).disk⟩ := by
  have hrecovers {disk' : Disk} (hdisk : Governor.Recovered options.storeOptions s.disk disk') :
      ∃ rs', (∃ tail, Framed disk' rs' tail) ∧ Cold b rs' := by
    rcases hdisk with rfl | ⟨records, hrec⟩
    · exact ⟨rs, ⟨tail, hframed⟩, hcold⟩
    · obtain ⟨rfl, hframed'⟩ := hrec.framed hframed
      exact ⟨_, ⟨[], hframed'⟩, h.recovered hC hc hcold⟩
  generalize hdisk : (s.step c).disk = disk' at hboots ⊢
  cases hboots with
  | refused hopen => exact absurd hopen (by simp [hclosed])
  | failed _ hg hdisk' =>
      obtain ⟨rs', hframed', hcold'⟩ := hrecovers hdisk'
      exact ⟨b, rs', hsaved.congr hdisk'.state_eq, hpolicy, hframed', hcold',
        fun hopen => absurd hopen (by simp [hg])⟩
  | live _ hbooted hstarts hg hjournal hstamped htracks =>
      cases hbooted with
      | fresh hnone =>
          obtain ⟨_, _, _, hfile⟩ := hsaved
          rw [hnone] at hfile
          cases hfile
      | loaded hl hnext =>
          obtain ⟨hstate, hrecovers, hframed'⟩ := hl.found_readable hsaved hpolicy hframed
          rw [hstate] at hstarts
          obtain ⟨records, hrec, hcounts⟩ := htracks
          have hfile : s.disk .state ≠ none := by
            obtain ⟨_, _, _, hfile⟩ := hsaved
            rw [hfile]
            exact Option.some_ne_none _
          obtain ⟨hcounted, _⟩ := (hrec.resolve_left fun hnone => hfile hnone.1).framed hframed
          rw [hcounted] at hcounts
          have hwarm : Warm g.state (readable options.storeOptions 0 rs) g :=
            h.loaded hC hc hcold hstarts hg (hdisk ▸ hstamped)
          exact ⟨g.state, _, hstamped.saved, hg.policy, ⟨[], hframed'.congr hjournal⟩, h.cold hwarm,
            fun _ => ⟨hstarts.journaling hcounts hframed' hjournal, hwarm⟩⟩

/-- A runtime that goes live on an empty directory. -/
theorem Upkeep.initializes (h : Upkeep C Cold Warm) (hfounds : Founds C Warm) (hC : C ⟨s, c⟩)
    (hc : c.command = .openRuntime options policy)
    (hboots : Governor.Boots s.governor options policy s.disk g (s.step c).disk) (hs : Unused s) :
    Unused ⟨g, (s.step c).disk⟩ ∨ ∃ b' rs', Filed Cold Warm b' rs' ⟨g, (s.step c).disk⟩ := by
  have hempty : Framed s.disk [] [] := ⟨by rw [hs.journal]; rfl, nofun, .inl rfl⟩
  generalize hdisk : (s.step c).disk = disk' at hboots ⊢
  cases hboots with
  | refused hopen => exact absurd hopen (by simp [hs.isOpen])
  | failed _ hg hdisk' =>
      refine .inl ⟨hg, hdisk'.state_eq.trans hs.state, ?_⟩
      rcases hdisk' with rfl | ⟨records, hrec⟩
      · exact hs.journal
      · cases hrec with
        | absent hnone => exact hnone
        | intact hsome => exact absurd (hs.journal.symm.trans hsome) nofun
        | rewritten hsome => exact absurd (hs.journal.symm.trans hsome) nofun
  | live _ hbooted hstarts hg hjournal hstamped htracks =>
      cases hbooted with
      | loaded hl =>
          obtain ⟨_, _, _, hfile, _⟩ := hl.found
          exact absurd (hs.state.symm.trans hfile) nofun
      | fresh _ =>
          have hwarm : Warm g.state [] g := @hfounds ⟨s, c⟩ _ _ _ hC hc hstarts hg (hdisk ▸ hstamped)
          obtain ⟨records, hrec, hcounts⟩ := htracks
          have hrecords : records = [] := by
            rcases hrec with ⟨_, hrecords⟩ | hrec
            · exact hrecords
            · exact (hrec.framed hempty).1
          rw [hrecords] at hcounts
          exact .inr ⟨g.state, [], hstamped.saved, hg.policy, ⟨[], hempty.congr hjournal⟩, h.cold hwarm,
            fun _ => ⟨hstarts.journaling hcounts hempty hjournal, hwarm⟩⟩

/-- What a crash leaves. -/
theorem Filed.crashed (h : Filed Cold Warm b rs ⟨g, disk⟩) : Filed Cold Warm b rs ⟨{}, disk⟩ :=
  ⟨h.saved, h.policy, h.framed, h.cold, nofun⟩

/-- A call keeps the options. -/
theorem Governor.Effect.options_eq {command : Command} {reply : Reply}
    (h : Governor.Effect g command reply g') (hc : command.opens = false) : g'.options = g.options := by
  have hsame {x : Governor} (hcore : g'.core = x.core) : g'.options = x.options :=
    Governor.core_congr (·.options) (fun _ => rfl) hcore
  cases h with
  | kept _ hcore => exact hsame hcore
  | opened => cases hc
  | stopped _ hcore => exact (hsame hcore).trans rfl
  | installed _ _ hcore => exact (hsame hcore).trans rfl
  | advanced _ hcore => exact (hsame hcore).trans rfl
  | registered _ hcore => exact (hsame hcore).trans rfl
  | adopted hcore => exact (hsame hcore).trans rfl
  | ingested _ h => exact (Governor.rest_congr (·.options) (fun _ => rfl) h.rest :)
  | evaluated h =>
      cases h with
      | refused hcore => exact hsame hcore
      | recorded _ _ _ _ hcore => exact (hsame hcore).trans rfl

/-- A call that is no evaluation. -/
theorem Upkeep.calls (h : Upkeep C Cold Warm) (hC : C ⟨s, c⟩) (hc : c.command.opens = false)
    (hquiet : c.command.journals = false) (hs : Filed Cold Warm b rs s)
    (hlive : s.governor.isOpen = true → s.governor.Live) :
    ∃ b', Filed Cold Warm b' rs (s.step c) := by
  obtain ⟨reply, x, hends, hend⟩ := s.step_ends c hc
  obtain ⟨tail, hframed⟩ := hs.framed
  have hframed' : Framed (s.step c).disk rs tail := hframed.congr (hends.journal hquiet)
  have hlog (hwas : s.governor.isOpen = true) (hopen : x.isOpen = true) :
      x.Journaling (s.step c).disk rs :=
    (hs.warm hwas).1.congr (hends.journal hquiet) ((hends.quiet hquiet).store hopen)
      (hends.effect.options_eq hc)
  have hafter : (s.step c).governor = x ∨ (s.step c).governor = {} := hend.imp (fun h => h.2.2) And.right
  have hsettled (hwas : s.governor.isOpen = true) (hstamped : x.Stamped (s.step c).disk) :
      Filed Cold Warm x.state rs ⟨x, (s.step c).disk⟩ := by
    have hwarm : Warm x.state rs x :=
      @Upkeep.settled _ _ _ h ⟨s, c⟩ _ _ _ _ hC hc hquiet (hs.warm hwas).2 hends hafter hstamped
    exact ⟨hstamped.saved, hends.effect.policy hc (hlive hwas).policy, ⟨tail, hframed'⟩, h.cold hwarm,
      fun hopen => ⟨hlog hwas hopen, hwarm⟩⟩
  have hcold (hsame : (s.step c).disk .state = s.disk .state) :
      Filed Cold Warm b rs ⟨{}, (s.step c).disk⟩ :=
    ⟨hs.saved.congr hsame, hs.policy, ⟨tail, hframed'⟩, hs.cold, nofun⟩
  rcases hend with ⟨hreply, hsettles, hx⟩ | ⟨_, hx⟩
  · have hstep : s.step c = ⟨x, (s.step c).disk⟩ := by rw [← hx]
    rw [hstep]
    by_cases hstamped : s.governor.isOpen = true ∧ x.Stamped (s.step c).disk
    · exact ⟨x.state, hsettled hstamped.1 hstamped.2⟩
    · have hsame : (s.step c).disk .state = s.disk .state := hends.state.resolve_right hstamped
      refine ⟨b, hs.saved.congr hsame, hs.policy, ⟨tail, hframed'⟩, hs.cold, fun hopen => ?_⟩
      have hwas : s.governor.isOpen = true := hends.effect.wasOpen hc hopen
      have hunsaved : ¬ x.Stamped (s.step c).disk := fun h => hstamped ⟨hwas, h⟩
      refine ⟨hlog hwas hopen, @Upkeep.called _ _ _ h ⟨s, c⟩ _ _ _ _ hC hc hquiet (hs.warm hwas).2 hends
        hx ((hends.since hquiet).resolve_right fun hsaved => hunsaved hsaved.2) fun hlost => ?_⟩
      cases hok : reply.isOk with
      | true => exact (hsettles hok).resolve_left hunsaved
      | false =>
          by_cases hbooks : Governor.SameBooks s.governor x
          · exact hbooks
          · refine absurd ⟨hwas, ?_, reply, hreply, hok⟩ hlost
            have hafter : Step.after ⟨s, c⟩ = s.step c := rfl
            rw [hafter, hx]
            exact hbooks
  · have hstep : s.step c = ⟨{}, (s.step c).disk⟩ := by rw [← hx]
    rw [hstep]
    rcases hends.state with hsame | ⟨hwas, hstamped⟩
    · exact ⟨b, hcold hsame⟩
    · exact ⟨x.state, (hsettled hwas hstamped).crashed⟩

/-! ## Evaluations -/

section

variable {order : MapOrder} {wall : UInt64} {request : EvaluationRequest} {x : Governor}
  {rs' : List AuditRecord} {status : Status}

/-- A journal that is made ready for a decision. -/
theorem Upkeep.readies (h : Upkeep C Cold Warm) (hC : C ⟨s, c⟩)
    (hc : c.command = .evaluate order wall request) (hlog : s.governor.Journaling s.disk rs)
    (hwarm : Warm b rs s.governor)
    (hready : Governor.Readies (s.governor.ticking request) s.disk rs
      (s.governor.ruling order wall request).record g disk' rs') : Warm b rs' g := by
  have hticking : Warm b rs (s.governor.ticking request) := h.ticking hwarm
  cases hready with
  | room => exact hticking
  | compacted hfull hfits =>
      exact @Upkeep.compacted _ _ _ h ⟨s, c⟩ _ _ _ _ _ _ hC hc hticking (hlog.congr rfl rfl rfl) hfull hfits

/-- A decision that was put into the journal. -/
theorem Upkeep.appends (h : Upkeep C Cold Warm) (hC : C ⟨s, c⟩)
    (hc : c.command = .evaluate order wall request) (hlog : s.governor.Journaling s.disk rs)
    (hwarm : Warm b rs s.governor) (hserves : s.governor.Serves request)
    (happend : Governor.Appends (s.governor.ticking request) s.disk rs
      (s.governor.ruling order wall request).record (.success, x) disk' rs') :
    Warm b rs' (x.withRuling request.domain (s.governor.ruling order wall request)) := by
  obtain ⟨g₁, disk₁, rs₁, hready, hroom, hx, _, hrs⟩ := happend.inv rfl
  replace hx : x = g₁.journaled (s.governor.ruling order wall request).record := hx
  rw [hx, hrs]
  have hready' := hready.journaling (hlog.congr rfl rfl rfl)
  exact @Upkeep.recorded _ _ _ h ⟨s, c⟩ _ _ _ _ _ _ _ hC hc (h.readies hC hc hlog hwarm hready) hready'
    (hready.core.trans rfl) hready.clock hserves hroom

/-- A runtime with its journal, after an evaluation that was not saved. -/
theorem Filed.logged (hs : Filed Cold Warm b rs s) (h : Upkeep C Cold Warm)
    (hstate : disk' .state = s.disk .state) (hlog : g.Journaling disk' rs') (hwarm : Warm b rs' g) :
    Filed Cold Warm b rs' ⟨g, disk'⟩ :=
  ⟨hs.saved.congr hstate, hs.policy, ⟨[], hlog.journals.framed⟩, h.cold hwarm, fun _ => ⟨hlog, hwarm⟩⟩

/-- An evaluation. -/
theorem Upkeep.evaluates (h : Upkeep C Cold Warm) (hC : C ⟨s, c⟩)
    (hc : c.command = .evaluate order wall request)
    (hfates : World.Clean (⟨s.disk, c.fates⟩ : World FileName)) (hs : Filed Cold Warm b rs s) (hlive : s.governor.isOpen = true → s.governor.Live) : ∃ b' rs', Filed Cold Warm b' rs' (s.step c) := by
  cases hopen : s.governor.isOpen with
  | false =>
      rw [System.evaluate_closed hc hopen]
      exact ⟨b, rs, hs⟩
  | true =>
      obtain ⟨hlog, hwarm⟩ := hs.warm hopen
      have hticking : Warm b rs (s.governor.ticking request) := h.ticking hwarm
      have hticked : (s.governor.ticking request).Journaling s.disk rs := hlog.congr rfl rfl rfl
      have hsaved {x : Governor} {disk₁ : Disk} {rs₁ : List AuditRecord} {r : Ruling}
          (happend : Governor.Appends (s.governor.ticking request) s.disk rs
            (s.governor.ruling order wall request).record (.success, x) disk₁ rs₁)
          (hs' : Governor.Savable (x.withRuling request.domain r))
          (hwarm' : Warm b rs₁ (x.withRuling request.domain r)) :
          Filed Cold Warm (x.withRuling request.domain r).saved.state rs₁
            ⟨(x.withRuling request.domain r).saved,
              withState disk₁ (x.withRuling request.domain r).stamped.state⟩ := by
        have hlog₁ := happend.journaling hticked
        have hpolicy : (x.withRuling request.domain r).saved.state.policy = s.governor.state.policy :=
          (Governor.core_congr (·.state.policy) (fun _ => rfl) happend.core :)
        have hlog' : (x.withRuling request.domain r).saved.Journaling
            (withState disk₁ (x.withRuling request.domain r).stamped.state) rs₁ :=
          hlog₁.congr withState_journal rfl rfl
        refine ⟨hs'.savedAs, ?_, ⟨[], hlog'.journals.framed⟩, h.cold (h.saved hwarm'),
          fun _ => ⟨hlog', h.saved hwarm'⟩⟩
        rw [hpolicy]
        exact (hlive hopen).policy
      rcases System.falters_step hc hfates hlog with
        ⟨result, rs', _, hdecides | ⟨_, hfalters⟩⟩ | ⟨_, hboot, hbreaks⟩
      · have hstep : s.step c = ⟨(s.step c).governor, (s.step c).disk⟩ := rfl
        rw [hstep]
        generalize (s.step c).governor = x, (s.step c).disk = disk' at hdecides
        cases hdecides with
        | refused hx =>
            rcases hx with rfl | rfl
            · exact ⟨b, rs, hs⟩
            · exact ⟨b, rs, hs.logged h rfl hticked hticking⟩
        | unlogged _ happend hbad =>
            refine ⟨b, rs', hs.logged h happend.state (happend.journaling hticked) ?_⟩
            rcases happend.readied hbad with hready | ⟨hx, _, hrs⟩
            · exact h.readies hC hc hlog hwarm hready
            · replace hx : x = s.governor.ticking request := hx
              rw [hx, hrs]
              exact hticking
        | recorded hserves happend hearly =>
            exact ⟨b, rs', hs.logged h happend.state (happend.journaling hticked).withRuling
              (h.appends hC hc hlog hwarm hserves happend)⟩
        | saved hserves happend hs' =>
            exact ⟨_, rs', hsaved happend hs' (h.appends hC hc hlog hwarm hserves happend)⟩
        | unsaved hserves happend =>
            exact ⟨b, rs', hs.logged h happend.state ((happend.journaling hticked).congr rfl rfl rfl)
              (h.unsaved (h.appends hC hc hlog hwarm hserves happend))⟩
      · have hstep : s.step c = ⟨(s.step c).governor, (s.step c).disk⟩ := rfl
        rw [hstep]
        generalize (s.step c).governor = x, (s.step c).disk = disk' at hfalters
        cases hfalters with
        | unlogged _ hmisses =>
            refine ⟨b, rs', hs.logged h hmisses.state (hmisses.journaling hticked) ?_⟩
            rcases hmisses.readied with hready | ⟨hx, _, hrs⟩
            · exact h.readies hC hc hlog hwarm hready.choose_spec
            · replace hx : x = s.governor.ticking request := hx
              rw [hx, hrs]
              exact hticking
        | unsaved hserves happend =>
            exact ⟨b, rs', hs.logged h happend.state ((happend.journaling hticked).congr rfl rfl rfl)
              (h.unsaved (h.appends hC hc hlog hwarm hserves happend))⟩
      · have hstep : s.step c = ⟨{}, (s.step c).disk⟩ := by rw [← hboot]
        rw [hstep]
        generalize (s.step c).disk = disk' at hbreaks
        cases hbreaks with
        | stopped hserves hstops =>
            have hfiled {rs' : List AuditRecord} {tail : List UInt8} (hframed : Framed disk' rs' tail)
                (hcold : Cold b rs') : Filed Cold Warm b rs' ⟨{}, disk'⟩ :=
              ⟨hs.saved.congr hstops.state, hs.policy, ⟨tail, hframed⟩, hcold, nofun⟩
            rcases hstops.framed hticked with ⟨tail, hframed⟩ |
              ⟨g₁, disk₁, rs₁, hready, ⟨tail, hframed⟩ | ⟨hroom, hframed⟩⟩
            · exact ⟨b, rs, hfiled hframed hs.cold⟩
            · exact ⟨b, rs₁, hfiled hframed (h.cold (h.readies hC hc hlog hwarm hready))⟩
            · exact ⟨b, _, hfiled hframed
                (h.cold (h.appends hC hc hlog hwarm hserves (.done hready hroom)))⟩
        | recorded hserves happend =>
            have hwarm' := h.appends hC hc hlog hwarm hserves happend
            exact ⟨b, _,
              (hs.logged h happend.state (happend.journaling hticked).withRuling hwarm').crashed⟩
        | saved hserves happend hs' =>
            have hwarm' := h.appends hC hc hlog hwarm hserves happend
            exact ⟨_, _, (hsaved happend hs' hwarm').crashed⟩

end

end

/-! ## Runs -/

section

variable {C : Step → Prop} {Cold : DurableState → List AuditRecord → Prop}
  {Warm : DurableState → List AuditRecord → Governor → Prop} {b : DurableState}
  {rs : List AuditRecord} {s : System} {c : System.Call} {disk : Disk}

/-- **A step** keeps them up. -/
theorem Upkeep.step (h : Upkeep C Cold Warm) (hs : Filed Cold Warm b rs s)
    (hlive : s.governor.isOpen = true → s.governor.Live) (hC : C ⟨s, c⟩)
    (hclean : Step.Clean ⟨s, c⟩) : ∃ b' rs', Filed Cold Warm b' rs' (s.step c) := by
  cases hc : c.command.opens with
  | true =>
      obtain ⟨options, policy, hcommand⟩ := Command.opens_eq_true.mp hc
      obtain ⟨x, hx, hgovernor⟩ := System.open_cases hcommand
      obtain ⟨b', rs', hfiled⟩ : ∃ b' rs', Filed Cold Warm b' rs' ⟨x, (s.step c).disk⟩ := by
        cases hwas : s.governor.isOpen with
        | true =>
            obtain ⟨hg, hdisk⟩ := hx.same hwas
            rw [hg, hdisk]
            exact ⟨b, rs, hs⟩
        | false =>
            obtain ⟨tail, hframed⟩ := hs.framed
            exact h.boots hC hcommand hx hwas hs.saved hs.policy hframed hs.cold
      rcases hgovernor with hg | ⟨_, hg⟩
      · exact ⟨b', rs', by rw [← hg] at hfiled; exact hfiled⟩
      · exact ⟨b', rs', by rw [show s.step c = ⟨{}, (s.step c).disk⟩ by rw [← hg]]; exact hfiled.crashed⟩
  | false =>
      cases hquiet : c.command.journals with
      | true =>
          obtain ⟨order, wall, request, hcommand⟩ := Command.journals_eq_true.mp hquiet
          exact h.evaluates hC hcommand (hclean hquiet) hs hlive
      | false =>
          obtain ⟨b', hfiled⟩ := h.calls hC hc hquiet hs hlive
          exact ⟨b', rs, hfiled⟩

/-- A step on a directory no runtime has been opened on. -/
theorem Upkeep.step_unused (h : Upkeep C Cold Warm) (hfounds : Founds C Warm) (hs : Unused s)
    (hC : C ⟨s, c⟩) :
    Unused (s.step c) ∨ ∃ b' rs', Filed Cold Warm b' rs' (s.step c) := by
  cases hc : c.command.opens with
  | true =>
      obtain ⟨options, policy, hcommand⟩ := Command.opens_eq_true.mp hc
      obtain ⟨x, hx, hgovernor⟩ := System.open_cases hcommand
      have hstep : s.step c = ⟨(s.step c).governor, (s.step c).disk⟩ := rfl
      rw [hstep]
      rcases hgovernor with hg | ⟨_, hg⟩
      · rw [hg]
        exact h.initializes hfounds hC hcommand hx hs
      · rw [hg]
        refine (h.initializes hfounds hC hcommand hx hs).imp (fun hunused => ?_) fun ⟨b', rs', hfiled⟩ => ?_
        · exact ⟨rfl, hunused.state, hunused.journal⟩
        · exact ⟨b', rs', hfiled.crashed⟩
  | false =>
      cases hquiet : c.command.journals with
      | true =>
          obtain ⟨order, wall, request, hcommand⟩ := Command.journals_eq_true.mp hquiet
          rw [System.evaluate_closed hcommand hs.isOpen]
          exact .inl hs
      | false =>
          obtain ⟨reply, x, hends, hend⟩ := s.step_ends c hc
          have hopen : (s.step c).governor.isOpen = false := by
            rcases hend with ⟨_, _, hx⟩ | ⟨_, hx⟩
            · rw [hx, ← Bool.not_eq_true]
              exact fun hopen => absurd (hends.effect.wasOpen hc hopen) (by simp [hs.isOpen])
            · rw [hx]
          have hstate : (s.step c).disk .state = s.disk .state :=
            hends.state.resolve_right fun hopen => absurd hopen.1 (by simp [hs.isOpen])
          exact .inl ⟨hopen, hstate.trans hs.state, (hends.journal hquiet).trans hs.journal⟩

/-- **A run** on an empty directory. -/
theorem Upkeep.run (h : Upkeep C Cold Warm) (hfounds : Founds C Warm) {ts : List Step}
    (hrun : SessionRun disk ts s) (hstate : disk .state = none) (hjournal : disk .journal = none) (hC : ∀ t ∈ ts, C t)
    (hclean : ∀ t ∈ ts, t.Clean) : Unused s ∨ ∃ b rs, Filed Cold Warm b rs s := by
  induction hrun with
  | nil => exact .inl ⟨rfl, hstate, hjournal⟩
  | snoc hrun c ih =>
      rw [List.forall_mem_append, List.forall_mem_singleton] at hC hclean
      rcases ih hC.1 hclean.1 with hunused | ⟨b, rs, hfiled⟩
      · exact h.step_unused hfounds hunused hC.2
      · exact .inr (h.step hfiled (live_of_run hrun) hC.2 hclean.2)

/-- A run that goes on. -/
theorem Upkeep.of_run (h : Upkeep C Cold Warm) {ts us : List Step} {a : System}
    (ha : SessionRun disk ts a) (hrun : Run System.step a us s) (hfiled : Filed Cold Warm b rs a)
    (hC : ∀ u ∈ us, C u) (hclean : ∀ u ∈ us, u.Clean) : ∃ b' rs', Filed Cold Warm b' rs' s := by
  induction hrun with
  | nil => exact ⟨b, rs, hfiled⟩
  | snoc hus c ih =>
      rw [List.forall_mem_append, List.forall_mem_singleton] at hC hclean
      obtain ⟨b', rs', hfiled'⟩ := ih hC.1 hclean.1
      exact h.step hfiled' (live_of_run (ha.append hus)) hC.2 hclean.2

end

end Oversub
