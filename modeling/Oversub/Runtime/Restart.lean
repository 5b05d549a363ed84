import Oversub.Runtime.Later

/-!
# Oversub.Runtime.Restart

Incarnations: the state file never holds an older one than the runtime that
wrote it, so every runtime that is opened on the directory has a later one
than all before it, whatever crashed in between.
-/

namespace Oversub

open Crash Files Trace

/-! ## The incarnation in the state file -/

/-- There is a state file, and nothing older than an incarnation can be read
from it. -/
def Floor (n : UInt64) (disk : Disk) : Prop :=
  ∃ bytes, disk .state = some bytes ∧ ∀ options decoded,
    decodeStateFile options bytes = .ok decoded → n ≤ decoded.incarnation.value

section

variable {n m : UInt64} {disk disk' : Disk}

theorem Floor.mono (h : Floor m disk) (hle : n ≤ m) : Floor n disk := by
  obtain ⟨bytes, hbytes, hdecode⟩ := h
  exact ⟨bytes, hbytes, fun options decoded h => UInt64.le_trans hle (hdecode options decoded h)⟩

theorem Floor.congr (h : Floor n disk) (hdisk : disk' .state = disk .state) : Floor n disk' := by
  obtain ⟨bytes, hbytes, hdecode⟩ := h
  exact ⟨bytes, hdisk.trans hbytes, hdecode⟩

/-- A runtime that was saved has left its incarnation. -/
theorem Governor.Saved.floor {g : Governor} (h : g.Saved disk)
    (hp : (validatePolicy g.state.policy).isOk = true) : Floor g.state.incarnation.value disk := by
  obtain ⟨state, hcore, bytes, hbytes, hlen, hdisk⟩ := h
  have hpolicy : state.policy = g.state.policy := (congrArg DurableState.policy hcore :)
  have hincarnation : state.incarnation = g.state.incarnation :=
    (congrArg DurableState.incarnation hcore :)
  refine ⟨_, hdisk, fun options decoded h => ?_⟩
  obtain ⟨_, _, _, rfl⟩ := (decodeStateFile_saved hbytes hlen (hpolicy ▸ hp)).mp h
  rw [hincarnation]
  exact UInt64.le_refl _

/-- A state that is loaded is no older than the state file. -/
theorem Floor.loads (h : Floor n disk) {options : StoreOptions} {state : DurableState}
    (hl : Loads options disk state disk') : n ≤ state.incarnation.value := by
  obtain ⟨bytes, hbytes, hdecode⟩ := h
  obtain ⟨_, decoded, records, hbytes', hdecoded, _, rfl⟩ := hl.found
  obtain rfl := Option.some.inj (hbytes.symm.trans hbytes')
  rw [(recoverState_frame _ _ _).2]
  exact hdecode options decoded hdecoded

end

/-! ## Runs on a directory -/

namespace Governor

/-- No call but `open` takes the accepted policy away. -/
theorem Effect.policy {g g' : Governor} {c : Command} {reply : Reply} (h : Effect g c reply g')
    (hc : c.opens = false) (hg : (validatePolicy g.state.policy).isOk = true) :
    (validatePolicy g'.state.policy).isOk = true := by
  have hsame {x : Governor} (h : g'.core = x.core) : g'.state.policy = x.state.policy :=
    core_congr (·.state.policy) (fun _ => rfl) h
  cases h with
  | kept _ hcore => exact hsame hcore ▸ hg
  | opened => cases hc
  | stopped _ hcore => exact hsame hcore ▸ hg
  | installed _ hpolicy hcore => exact hsame hcore ▸ hpolicy
  | advanced _ hcore => exact hsame hcore ▸ hg
  | registered _ hcore => exact hsame hcore ▸ hg
  | adopted hcore => exact hsame hcore ▸ hg
  | ingested _ h =>
      have hrest : g'.state.policy = g.state.policy :=
        rest_congr (·.state.policy) (fun _ => rfl) h.rest
      exact hrest ▸ hg
  | evaluated h =>
      cases h with
      | refused hcore => exact hsame hcore ▸ hg
      | recorded _ _ _ _ hcore => exact hsame hcore ▸ hg

/-- Nothing but `open` opens a runtime. -/
theorem Effect.wasOpen {g g' : Governor} {c : Command} {reply : Reply} (h : Effect g c reply g')
    (hc : c.opens = false) (hopen : g'.isOpen = true) : g.isOpen = true := by
  have hsame {x : Governor} (h : g'.core = x.core) : x.isOpen = true :=
    (core_congr (·.isOpen) (fun _ => rfl) h).symm.trans hopen
  cases h with
  | kept _ hcore => exact hsame hcore
  | opened => cases hc
  | stopped hwas hcore => exact hwas (hsame hcore :)
  | installed _ _ hcore => exact (hsame hcore :)
  | advanced _ hcore => exact (hsame hcore :)
  | registered _ hcore => exact (hsame hcore :)
  | adopted hcore => exact (hsame hcore :)
  | ingested _ h => exact (rest_congr (·.isOpen) (fun _ => rfl) h.rest).symm.trans hopen
  | evaluated h =>
      cases h with
      | refused hcore => exact hsame hcore
      | recorded hwas => exact hwas

section

variable {n : UInt64} {g g' : Governor} {options : GovernorOptions} {policy : OversubscriptionPolicy}
  {disk disk' : Disk}

theorem add_one_ne_zero_of_ne_max {n : UInt64} (h : n ≠ UInt64.ofNat u64Max) : n + 1 ≠ 0 := by
  intro h0
  refine h (UInt64.toNat_inj.mp ?_)
  have hsum := congrArg UInt64.toNat h0
  rw [UInt64.toNat_add] at hsum
  have hlt := n.toNat_lt
  have hmax : (UInt64.ofNat u64Max).toNat = 2 ^ 64 - 1 := rfl
  have hone : (1 : UInt64).toNat = 1 := rfl
  have hzero : (0 : UInt64).toNat = 0 := rfl
  omega

/-- A runtime that goes live leaves its incarnation in the state file. -/
theorem Boots.floor_live (h : Boots g options policy disk g' disk') (hclosed : g.isOpen = false)
    (hopen : g'.isOpen = true) : Floor g'.state.incarnation.value disk' := by
  cases h with
  | refused hopen => exact absurd hopen (by simp [hclosed])
  | live _ _ _ hfresh _ hstamped => exact hstamped.isSaved.floor hfresh.policy
  | failed _ hg => exact absurd hopen (by simp [hg])

/-- A runtime that goes live has a later incarnation than the state file. -/
theorem Boots.incarnation_lt (h : Boots g options policy disk g' disk') (hn : Floor n disk)
    (hclosed : g.isOpen = false) (hopen : g'.isOpen = true) : n < g'.state.incarnation.value := by
  cases h with
  | refused hopen => exact absurd hopen (by simp [hclosed])
  | failed _ hg => exact absurd hopen (by simp [hg])
  | live _ hbooted hstarts =>
      have hincarnation := congrArg (fun state : DurableState => state.incarnation.value) hstarts.core
      cases hbooted with
      | fresh hnone =>
          obtain ⟨bytes, hbytes, _⟩ := hn
          rw [hnone] at hbytes
          cases hbytes
      | @loaded state _ hl hnext =>
          have hnew : g'.state.incarnation.value = state.incarnation.value + 1 := hincarnation
          rw [hnew]
          exact UInt64.lt_of_le_of_lt (hn.loads hl)
            (lt_add_one_of_ne (add_one_ne_zero_of_ne_max hnext))

theorem Boots.floor (h : Boots g options policy disk g' disk') (hn : Floor n disk) :
    Floor n disk' := by
  cases h with
  | refused => exact hn
  | live hclosed hbooted hstarts hfresh hjournal hstamped htracks =>
      have hlive : Boots g options policy disk g' disk' :=
        .live hclosed hbooted hstarts hfresh hjournal hstamped htracks
      exact (hstamped.isSaved.floor hfresh.policy).mono
        (UInt64.le_of_lt (hlive.incarnation_lt hn hclosed hfresh.isOpen))
  | failed _ _ hdisk => exact hn.congr hdisk.state_eq

end

end Governor

/-- Every runtime from here on has at least an incarnation. -/
structure Since (n : UInt64) (s : System) : Prop where
  floor : Floor n s.disk
  incarnation : s.governor.isOpen = true → n ≤ s.governor.state.incarnation.value

namespace System

variable {n : UInt64} {s : System} {c : Call}

/-- **Incarnations** never go back. -/
theorem since_step (h : Since n s) (hlive : s.governor.isOpen = true → s.governor.Live) :
    Since n (s.step c) := by
  cases hc : c.command.opens with
  | true =>
      obtain ⟨options, policy, hcommand⟩ := Command.opens_eq_true.mp hc
      obtain ⟨x, hx, hgovernor⟩ := open_cases hcommand
      refine ⟨hx.floor h.floor, fun hopen => ?_⟩
      rcases hgovernor with rfl | ⟨_, hboot⟩
      · cases hwas : s.governor.isOpen with
        | false => exact UInt64.le_of_lt (hx.incarnation_lt h.floor hwas hopen)
        | true =>
            rw [(hx.same hwas).1]
            exact h.incarnation hwas
      · rw [hboot] at hopen
        cases hopen
  | false =>
      obtain ⟨reply, x, heffect, hleaves, hend⟩ := step_cases s c hc
      have hincarnation := (heffect.later hc).incarnation
      refine ⟨?_, fun hopen => ?_⟩
      · rcases hleaves.state with hsame | ⟨hopen, hsaved⟩
        · exact h.floor.congr hsame
        · refine (hsaved.floor (heffect.policy hc (hlive hopen).policy)).mono ?_
          rw [hincarnation]
          exact h.incarnation hopen
      · rcases hend with ⟨_, hx⟩ | ⟨_, hboot⟩
        · rw [hx] at hopen ⊢
          rw [hincarnation]
          exact h.incarnation (heffect.wasOpen hc hopen)
        · rw [hboot] at hopen
          cases hopen

/-- A runtime that is opened has a later incarnation than all before. -/
theorem since_reopened (h : Since n s) (ht : Step.Reopens ⟨s, c⟩) :
    ∃ m, n < m ∧ Since m (s.step c) := by
  obtain ⟨⟨options, policy, hcommand⟩, hclosed, hopen⟩ := ht
  replace hopen : (s.step c).governor.isOpen = true := hopen
  obtain ⟨x, hx, hgovernor⟩ := open_cases hcommand
  rcases hgovernor with rfl | ⟨_, hboot⟩
  · exact ⟨_, hx.incarnation_lt h.floor hclosed hopen, hx.floor_live hclosed hopen,
      fun _ => UInt64.le_refl _⟩
  · rw [hboot] at hopen
    cases hopen

end System

/-- In every run, a runtime that is open has left its incarnation in the state
file. -/
theorem since_of_run {disk : Disk} {ts : List Step} {s : System} (h : SessionRun disk ts s)
    (hopen : s.governor.isOpen = true) : Since s.governor.state.incarnation.value s := by
  induction h with
  | nil => cases hopen
  | @snoc ts t hrun c ih =>
      refine ⟨?_, fun _ => UInt64.le_refl _⟩
      cases hc : c.command.opens with
      | true =>
          obtain ⟨options, policy, hcommand⟩ := Command.opens_eq_true.mp hc
          obtain ⟨x, hx, hgovernor⟩ := System.open_cases hcommand
          rcases hgovernor with rfl | ⟨_, hboot⟩
          · cases hwas : t.governor.isOpen with
            | false => exact hx.floor_live hwas hopen
            | true =>
                obtain ⟨hg, hdisk⟩ := hx.same hwas
                rw [hg, hdisk]
                exact (ih hwas).floor
          · rw [hboot] at hopen
            cases hopen
      | false =>
          obtain ⟨reply, x, heffect, _, hend⟩ := t.step_cases c hc
          rcases hend with ⟨_, hx⟩ | ⟨_, hboot⟩
          · rw [hx] at hopen ⊢
            have hwas := heffect.wasOpen hc hopen
            rw [(heffect.later hc).incarnation]
            exact (System.since_step (ih hwas) (live_of_run hrun)).floor
          · rw [hboot] at hopen
            cases hopen

/-- The incarnations of a run from a point on. -/
theorem Since.of_run {n : UInt64} {disk : Disk} {ts us : List Step} {a s : System}
    (ha : SessionRun disk ts a) (h : Since n a) (hrun : Run System.step a us s) : Since n s := by
  induction hrun with
  | nil => exact h
  | snoc hus c ih => exact System.since_step ih (live_of_run (ha.append hus))

end Oversub
