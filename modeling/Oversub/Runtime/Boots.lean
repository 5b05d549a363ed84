import Oversub.Runtime.Effects

/-!
# Oversub.Runtime.Boots

What a save leaves in the state file, and what `open` makes of the directory:
the runtime starts from a fresh state or from the state that was loaded, under
the next incarnation, and is live only once that state is in the state file.
-/

namespace Oversub

open Crash Files

/-- The state a runtime takes over from a directory. -/
def DurableState.rebooted (state : DurableState) : DurableState :=
  { state with
    incarnation := ⟨state.incarnation.value + 1⟩
    epoch := if state.epoch.valid then state.epoch else ⟨1⟩
    evidence := state.evidence.map fun e => { e with revalidationRequired := true } }

namespace Governor

variable {g g' : Governor} {disk disk' : Disk} {force : Bool}

/-! ## The state file -/

/-- What a save may leave of the state file. -/
def SavedAs (state : DurableState) (disk : Disk) : Prop :=
  ∃ bytes, serializeState state = .ok bytes ∧ bytes.length < 2 ^ 64 ∧
    disk .state = some (makeStateFile bytes)

theorem meets_save {s : Store} {state : DurableState} {w : World FileName} :
    Meets (s.save state)
      (fun status w' => w'.disk .journal = w.disk .journal ∧
        if status.isOk then SavedAs state w'.disk else w'.disk .state = w.disk .state)
      (fun w' => w'.disk .journal = w.disk .journal ∧
        (w'.disk .state = w.disk .state ∨ SavedAs state w'.disk)) w := by
  unfold Store.save
  split
  · exact ⟨rfl, rfl⟩
  · cases hs : serializeState state with
    | error status =>
        refine ⟨rfl, ?_⟩
        rw [serializeState_error hs]
        rfl
    | ok bytes =>
        dsimp only
        split
        · exact ⟨rfl, rfl⟩
        next hlen =>
          have hlen' : bytes.length < 2 ^ 64 := by
            have hmax := s.options.maxStateBytes.toNat_lt
            omega
          have hsaved : SavedAs state (replaced w.disk .state (makeStateFile bytes)) :=
            ⟨bytes, hs, hlen', replaced_self⟩
          have hjournal : replaced w.disk .state (makeStateFile bytes) .journal = w.disk .journal :=
            replaced_ne (by decide)
          unfold writeFileAtomic
          rw [meets_bind]
          exact meets_replace ⟨hjournal, hsaved⟩ (fun _ => ⟨rfl, rfl⟩) ⟨rfl, .inl rfl⟩
            ⟨hjournal, .inr hsaved⟩

/-- The state file holds the state of a governor, up to its history. -/
def Saved (g : Governor) (disk : Disk) : Prop :=
  ∃ state : DurableState, state.core = g.state.core ∧ SavedAs state disk

/-- The state file has the state of a governor as it is. -/
structure Stamped (g : Governor) (disk : Disk) : Prop where
  saved : SavedAs g.state disk
  evidence : g.state.evidence = g.slots.map (·.state)
  tick : g.state.tick = g.clock.tick

/-- A governor that was stamped, or was not. -/
structure Restamped (g' g : Governor) : Prop where
  core : g'.core = g.core
  store : g'.store = g.store
  audit : g'.state.audit = g.state.audit
  clock : g'.clock = g.clock

theorem Stamped.isSaved (h : Stamped g disk) : Saved g disk := ⟨g.state, rfl, h.saved⟩

theorem restamped_refl : Restamped g g := ⟨rfl, rfl, rfl, rfl⟩

/-- How making a governor durable ends, also on its stamps. -/
structure Persisted (g : Governor) (force : Bool) (disk : Disk) (r : Status × Governor)
    (disk' : Disk) : Prop where
  restamped : Restamped r.2 g
  journal : disk' .journal = disk .journal
  state : disk' .state = disk .state ∨ Stamped r.2 disk'
  stamped : force = true → r.1.isOk = true → Stamped r.2 disk' ∧ r.2.decisionsSinceSave = 0
  unsaved : r.1.isOk = false →
    disk' .state = disk .state ∧ r.2.decisionsSinceSave = g.decisionsSinceSave
  since : r.2.decisionsSinceSave = g.decisionsSinceSave ∨ r.2.decisionsSinceSave = 0 ∧ Stamped r.2 disk'

/-- How it ends in a crash. -/
structure CutOff (g : Governor) (disk disk' : Disk) : Prop where
  journal : disk' .journal = disk .journal
  state : disk' .state = disk .state ∨
    ∃ x, Restamped x g ∧ x.decisionsSinceSave = g.decisionsSinceSave ∧ Stamped x disk'

theorem meets_saved {w : World FileName} : Meets g.saveState
    (fun r w' => Persisted g force w.disk r w'.disk) (fun w' => CutOff g w.disk w'.disk) w := by
  unfold saveState
  rw [meets_bind]
  refine meets_save.mono (fun status w' ⟨hjournal, hstate⟩ => ?_) fun w' h => ?_
  · rw [meets_pure]
    cases hok : status.isOk with
    | true =>
        rw [hok, if_pos rfl] at hstate
        have hstamped : Stamped { g.stamped with decisionsSinceSave := 0, stateDirty := false } w'.disk :=
          ⟨hstate, rfl, rfl⟩
        exact ⟨⟨rfl, rfl, rfl, rfl⟩, hjournal, .inr hstamped,
          fun _ _ => ⟨hstamped, rfl⟩,
          fun h => absurd h (by simp [hok]), .inr ⟨rfl, hstamped⟩⟩
    | false =>
        rw [hok, if_neg Bool.false_ne_true] at hstate
        exact ⟨⟨rfl, rfl, rfl, rfl⟩, hjournal, .inl hstate, fun _ h => absurd h (by simp [hok]),
          fun _ => ⟨hstate, rfl⟩, .inl rfl⟩
  · exact ⟨h.1, h.2.imp_right fun hs => ⟨g.stamped, ⟨rfl, rfl, rfl, rfl⟩, rfl, hs, rfl, rfl⟩⟩

/-- **Durability**: a governor that was made durable is in the state file. -/
theorem meets_persisted {w : World FileName} : Meets (g.persistState force)
    (fun r w' => Persisted g force w.disk r w'.disk) (fun w' => CutOff g w.disk w'.disk) w := by
  have hkept (status : Status) (h : force = true → status.isOk = false) :
      Persisted g force w.disk (status, g) w.disk :=
    ⟨restamped_refl, rfl, .inl rfl, fun hforce hok => absurd (h hforce) (by simp [hok]),
      fun _ => ⟨rfl, rfl⟩, .inl rfl⟩
  unfold persistState
  split
  · split
    · exact meets_saved
    · exact hkept notOpen fun _ => rfl
  · cases force with
    | true => exact meets_saved
    | false =>
        split
        · exact hkept .success nofun
        · split
          · exact hkept .success nofun
          · exact meets_saved

/-! ## Opening -/

/-- The state a runtime starts from, and the directory it was taken from once
the journal is recovered. -/
inductive Booted (options : StoreOptions) (policy : OversubscriptionPolicy) (disk : Disk) :
    DurableState → Disk → Prop
  | fresh (h : disk .state = none) :
      Booted options policy disk (freshState (initialPolicy policy)) disk
  | loaded {state : DurableState} {disk' : Disk} (h : Loads options disk state disk')
      (hnext : state.incarnation.value ≠ UInt64.ofNat u64Max) :
      Booted options policy disk state.rebooted disk'

/-- The directory, up to a recovery of its journal. -/
def Recovered (options : StoreOptions) (disk disk' : Disk) : Prop :=
  disk' = disk ∨ ∃ records, Recovers options disk records disk'

/-- The counters of a store are those of the directory it was opened on. -/
def Tracks (options : StoreOptions) (disk disk' : Disk) (store : Store) : Prop :=
  ∃ records, (disk .state = none ∧ records = [] ∨ Recovers options disk records disk') ∧
    Counts store disk' records

/-- A runtime that starts from a state. -/
structure Starts (options : GovernorOptions) (state : DurableState) (g : Governor) : Prop where
  core : g.state.core = state.core
  configured : g.options = options
  slots : g.slots = state.evidence.map EvidenceSlot.restored
  audit : g.state.audit = state.audit
  clock : state.tick ≤ g.clock.tick
  store : g.store.options = options.storeOptions

/-- How an attempt to open a runtime ends, also on the directory. -/
inductive Boots (g : Governor) (options : GovernorOptions) (policy : OversubscriptionPolicy)
    (disk : Disk) : Governor → Disk → Prop
  | refused (hopen : g.isOpen = true) : Boots g options policy disk g disk
  | live {g' : Governor} {state : DurableState} {disk₁ disk' : Disk} (hclosed : g.isOpen = false)
      (hbooted : Booted options.storeOptions policy disk state disk₁)
      (hstarts : Starts options state g') (hfresh : Pristine g')
      (hjournal : disk' .journal = disk₁ .journal) (hstamped : Stamped g' disk')
      (htracks : Tracks options.storeOptions disk disk₁ g'.store) : Boots g options policy disk g' disk'
  | failed {g' : Governor} {disk' : Disk} (hclosed : g.isOpen = false) (hg : g'.isOpen = false)
      (hdisk : Recovered options.storeOptions disk disk')
      (hslots : (∀ slot ∈ g'.slots, slot.hasContent = false) ∨
        g'.slots = g.slots ∧ (g'.state = g.state ∨ Loads options.storeOptions disk g'.state disk')) :
      Boots g options policy disk g' disk'

section

variable {options : GovernorOptions} {policy : OversubscriptionPolicy} {state : DurableState}
  {disk₁ : Disk} {g₀ : Governor}

theorem Boots.opens (h : Boots g options policy disk g' disk') : Opens g g' := by
  cases h with
  | refused hopen => exact .refused hopen
  | live hclosed _ _ hfresh => exact .live hclosed hfresh
  | failed hclosed hg _ hslots => exact .failed hclosed hg (hslots.symm.imp_left And.left)

/-- A runtime that is open is left alone. -/
theorem Boots.same (h : Boots g options policy disk g' disk') (hopen : g.isOpen = true) :
    g' = g ∧ disk' = disk := by
  cases h with
  | refused => exact ⟨rfl, rfl⟩
  | live hclosed => exact absurd hopen (by simp [hclosed])
  | failed hclosed => exact absurd hopen (by simp [hclosed])

theorem Booted.recovered {options : StoreOptions} (h : Booted options policy disk state disk₁) :
    Recovered options disk disk₁ := by
  cases h with
  | fresh => exact .inl rfl
  | loaded h => exact .inr h.recovers

theorem Recovered.state_eq {options : StoreOptions} (h : Recovered options disk disk') :
    disk' .state = disk .state := by
  rcases h with rfl | ⟨_, h⟩
  · rfl
  · exact h.state

theorem disk_ext (hstate : disk' .state = disk .state) (hjournal : disk' .journal = disk .journal) :
    disk' = disk := by
  funext name
  cases name with
  | state => exact hstate
  | journal => exact hjournal

/-- A runtime that is about to be saved and to go live. -/
structure Booting (g : Governor) (options : GovernorOptions) (policy : OversubscriptionPolicy)
    (disk : Disk) (g₀ : Governor) (disk₁ : Disk) : Prop where
  closed : g.isOpen = false
  booted : Booted options.storeOptions policy disk g₀.state disk₁
  starts : Starts options g₀.state g₀
  notYet : g₀.isOpen = false
  policy : (validatePolicy g₀.state.policy).isOk = true
  index : g₀.index = .rebuild g₀.state.policy
  slots : ∀ slot ∈ g₀.slots, slot.hasContent = false
  tracks : Tracks options.storeOptions disk disk₁ g₀.store

/-- Once it is saved it goes live. -/
theorem Booting.live (h : Booting g options policy disk g₀ disk₁) {x : Governor}
    (hx : Restamped x g₀) (hstamped : Stamped x disk') (hjournal : disk' .journal = disk₁ .journal)
    (hcore : g'.core = { x with isOpen := true, accepting := g'.accepting }.core)
    (hstore : g'.store = x.store) (hstate : g'.state = x.state) (hclock : g'.clock = x.clock)
    (hsince : g'.decisionsSinceSave = 0) : Boots g options policy disk g' disk' := by
  have hslots : g'.slots = g₀.slots :=
    (core_congr (·.slots) (fun _ => rfl) hcore).trans (core_congr (·.slots) (fun _ => rfl) hx.core :)
  have hindex : g'.index = g₀.index :=
    (core_congr (·.index) (fun _ => rfl) hcore).trans (core_congr (·.index) (fun _ => rfl) hx.core :)
  have hoptions : g'.options = g₀.options :=
    (core_congr (·.options) (fun _ => rfl) hcore).trans
      (core_congr (·.options) (fun _ => rfl) hx.core :)
  have hisOpen : g'.isOpen = true := core_congr (·.isOpen) (fun _ => rfl) hcore
  have hcore' : g'.state.core = g₀.state.core := by
    rw [hstate]
    exact core_congr (·.state.core) (fun _ => rfl) hx.core
  have hpolicy : g'.state.policy = g₀.state.policy := (congrArg DurableState.policy hcore' :)
  refine .live h.closed h.booted ⟨hcore', hoptions.trans h.starts.configured, ?_, ?_, ?_, ?_⟩
    ⟨hisOpen, hpolicy ▸ h.policy, ?_, ?_, hsince⟩ hjournal ⟨?_, ?_, ?_⟩ ?_
  · rw [hslots]
    exact h.starts.slots
  · rw [hstate, hx.audit]
  · rw [hclock, hx.clock]
    exact h.starts.clock
  · rw [hstore, hx.store]
    exact h.starts.store
  · rw [hindex, h.index, hpolicy]
  · rw [hslots]
    exact h.slots
  · rw [hstate]
    exact hstamped.saved
  · have hslots' : x.slots = g₀.slots := core_congr (·.slots) (fun _ => rfl) hx.core
    rw [hstate, hslots, ← hslots']
    exact hstamped.evidence
  · rw [hstate, hclock]
    exact hstamped.tick
  · rw [hstore, hx.store]
    exact h.tracks

/-- The end of `open`. -/
theorem Booting.opened {r : Status × Governor} (h : Booting g options policy disk g₀ disk₁)
    (hr : Persisted g₀ true disk₁ r disk') : Boots g options policy disk (opened r).2 disk' := by
  unfold Governor.opened
  by_cases hok : r.1.isOk = true
  · rw [if_pos hok]
    obtain ⟨hstamped, hsince⟩ := hr.stamped rfl hok
    exact h.live hr.restamped hstamped hr.journal rfl rfl rfl rfl hsince
  · rw [if_neg hok]
    have hempty : ∀ slot ∈ r.2.slots, slot.hasContent = false := by
      rw [core_congr (·.slots) (fun _ => rfl) hr.restamped.core]
      exact h.slots
    have hclosed : r.2.isOpen = g₀.isOpen := core_congr (·.isOpen) (fun _ => rfl) hr.restamped.core
    have hdisk : disk' = disk₁ := disk_ext (hr.unsaved (by simpa using hok)).1 hr.journal
    exact .failed h.closed (hclosed.trans h.notYet) (hdisk ▸ h.booted.recovered) (.inl hempty)

/-- A crash on the way leaves the directory of a runtime that was saved, or of
none. -/
theorem Booting.crashed (h : Booting g options policy disk g₀ disk₁) (hs : CutOff g₀ disk₁ disk') :
    ∃ x, Boots g options policy disk x disk' := by
  rcases hs.state with hstate | ⟨x, hx, _, hstamped⟩
  · have hdisk : disk' = disk₁ := disk_ext hstate hs.journal
    exact ⟨{}, .failed h.closed rfl (hdisk ▸ h.booted.recovered)
      (.inl fun _ hslot => (List.not_mem_nil hslot).elim)⟩
  · exact ⟨{ x with isOpen := true, decisionsSinceSave := 0 },
      h.live hx hstamped hs.journal rfl rfl rfl rfl rfl⟩

theorem slots_restored : ∀ slot ∈ (g.restored state).slots, slot.hasContent = false := by
  intro slot hslot
  obtain ⟨e, _, rfl⟩ := List.mem_map.mp hslot
  rfl

theorem opened_failed {r : Status × Governor} (h : r.1.isOk = false) :
    opened r = (r.1, r.2.closeStore) := by
  unfold Governor.opened
  rw [if_neg (by simp [h])]

theorem open_of_not {b : Bool} (h : ¬ (!b) = true) : b = true := by
  rwa [Bool.not_eq_true, Bool.not_eq_false'] at h

/-- **Opening**, case by case. -/
theorem meets_open {w : World FileName} : Meets (g.open options policy)
    (fun r w' => Boots g options policy w.disk r.2 w'.disk)
    (fun w' => ∃ x, Boots g options policy w.disk x w'.disk) w := by
  have hrefused {x : Governor} (hclosed : g.isOpen = false) (hx : x.isOpen = g.isOpen)
      (hslots : x.slots = g.slots) (hstate : x.state = g.state) {disk' : Disk}
      (hdisk : disk' = w.disk) : Boots g options policy w.disk x disk' :=
    .failed hclosed (hx.trans hclosed) (.inl hdisk) (.inr ⟨hslots, .inl hstate⟩)
  have hcrashed (hclosed : g.isOpen = false) {disk' : Disk}
      (hdisk : Recovered options.storeOptions w.disk disk') :
      ∃ x, Boots g options policy w.disk x disk' :=
    ⟨{}, .failed hclosed rfl hdisk (.inl fun _ hslot => (List.not_mem_nil hslot).elim)⟩
  unfold Governor.open
  split
  next hopen => exact .refused hopen
  next hopen =>
    have hclosed : g.isOpen = false := by simpa using hopen
    split
    · exact hrefused hclosed rfl rfl rfl rfl
    split
    · exact hrefused hclosed rfl rfl rfl rfl
    split
    · exact hrefused hclosed rfl rfl rfl rfl
    rw [meets_bind]
    refine Store.meets_open.mono (fun ⟨status, store⟩ w₁ ⟨hdisk, hoptions⟩ => ?_)
      fun w₁ hdisk => hcrashed hclosed (.inl hdisk)
    dsimp only at hoptions ⊢
    split
    · rw [meets_pure]
      refine hrefused hclosed ?_ ?_ ?_ hdisk <;> rfl
    next hok =>
      obtain ⟨hstore, hcounts⟩ := hoptions (open_of_not hok)
      rw [meets_bind]
      refine Store.meets_load.mono (fun ⟨loaded, store'⟩ w₂ ⟨hoptions', h⟩ => ?_)
        fun w₂ h => hcrashed hclosed ?_
      · rw [hdisk, hstore] at h
        rcases loaded with status | ⟨_ | state, report⟩
        · dsimp only
          rw [meets_pure]
          refine hrefused hclosed ?_ ?_ ?_ h <;> rfl
        · have hnone := h.1
          have hdisk' := h.2.1
          have hstore' : store' = store := h.2.2
          unfold initializeLocked
          dsimp only
          rw [meets_bind]
          split
          next hpolicy =>
            rw [meets_pure, meets_pure, opened_failed (by simpa using hpolicy)]
            refine hrefused hclosed ?_ ?_ ?_ hdisk' <;> rfl
          next hpolicy =>
            have hfresh : Booted options.storeOptions policy w.disk
                (freshState (initialPolicy policy)) w₂.disk := by
              rw [hdisk']
              exact .fresh hnone
            have hbooting : Booting g options policy w.disk
                { g with
                  options, store := store', state := freshState (initialPolicy policy)
                  index := .rebuild (initialPolicy policy), slots := [], stateDirty := true }
                w₂.disk :=
              ⟨hclosed, hfresh, ⟨rfl, rfl, rfl, rfl, UInt64.zero_le, hstore' ▸ hstore⟩, hclosed,
                open_of_not hpolicy, rfl, fun _ hslot => (List.not_mem_nil hslot).elim,
                [], .inl ⟨hnone, rfl⟩, by rw [hstore', hdisk']; exact hcounts⟩
            exact meets_persisted.mono (fun r w₃ hr => hbooting.opened hr)
              fun w₃ hs => hbooting.crashed hs
        · obtain ⟨h, records, hrecovers, hcounts'⟩ := h
          dsimp only at h hoptions' ⊢
          split
          · exact .failed hclosed hclosed (.inr h.recovers) (.inr ⟨rfl, .inr h⟩)
          next hnext =>
            have hbooting : Booting g options policy w.disk
                (({ g with options, store := store' } : Governor).restored state) w₂.disk :=
              ⟨hclosed, .loaded h hnext,
                ⟨rfl, rfl, rfl, rfl, UInt64.le_refl _, hoptions'.trans hstore⟩, hclosed, h.policy, rfl,
                slots_restored, records, .inr hrecovers, hcounts'⟩
            rw [meets_bind]
            exact meets_persisted.mono (fun r w₃ hr => hbooting.opened hr)
              fun w₃ hs => hbooting.crashed hs
      · rw [hdisk, hstore] at h
        exact h

end

end Governor

end Oversub
