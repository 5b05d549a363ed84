import Oversub.Runtime.Room

/-!
# Oversub.Runtime.Lifecycle

The flags of one governor object over its calls.  A runtime that is open and
accepting takes evaluations, and `submit` also asks whether it is shutting
down.  `shutdown` raises that flag and nothing lowers it, so the flags agree
until an object that was shut down or closed is opened again.
-/

namespace Oversub

open Crash Files Trace

/-! ## Submission -/

/-- What `submit` does with a job it admits. -/
inductive Admission where
  | evaluated
  | queued
  deriving DecidableEq

/-- The calls that stop a runtime. -/
def Command.stops : Command → Bool
  | .close | .shutdown => true
  | _ => false

namespace Governor

/-- The tests of `submit`, with so many jobs in the queue. -/
def submit (g : Governor) (pending : Nat) : Except Status Admission :=
  if !g.isOpen then .error notOpen
  else if !g.accepting then .error shuttingDownStatus
  else if g.options.workerThreads = 0 then .ok .evaluated
  else if g.shuttingDown then .error shuttingDownStatus
  else if g.options.maxPendingJobs.toNat ≤ pending then
    .error (.failure .queueFull .queueLimitExceeded "pending job queue is full")
  else .ok .queued

/-- The flags agree. -/
def Coherent (g : Governor) : Prop := g.isOpen = true → g.accepting = true → g.shuttingDown = false

/-- Where evaluations are admitted, so are jobs, as long as the queue has room. -/
def Admissive (g : Governor) : Prop :=
  g.isOpen = true → g.accepting = true → g.options.workerThreads ≠ 0 →
    ∀ pending, pending < g.options.maxPendingJobs.toNat → g.submit pending = .ok .queued

end Governor

/-- A governor object, and the jobs in its queue. -/
structure Object where
  system : System
  queue : List EvaluationRequest := []

namespace Object

/-- A call of the object, a job that is submitted, or what a worker does with
the job at the head of the queue. -/
inductive Call where
  | call (c : System.Call)
  | submit (order : MapOrder) (wall : UInt64) (request : EvaluationRequest) (fates : List Fate)
  | work (order : MapOrder) (wall : UInt64) (cancelled : Bool) (fates : List Fate)
  | discard

def boot (disk : Disk) : Object := ⟨.boot disk, []⟩

/-- A call; a stop takes the jobs off the queue, and so does the end of the
process. -/
def call (s : Object) (c : System.Call) : Object :=
  let (reply, system) := s.system.perform c
  ⟨system, if reply.isNone || c.command.stops then [] else s.queue⟩

def step (s : Object) : Call → Object
  | .call c => s.call c
  | .submit order wall request fates =>
      match s.system.governor.submit s.queue.length with
      | .error _ => s
      | .ok .evaluated => s.call ⟨.evaluate order wall request, fates⟩
      | .ok .queued => { s with queue := s.queue ++ [request] }
  | .work order wall cancelled fates =>
      match s.queue with
      | [] => s
      | request :: queue =>
          match s.system.governor.evaluateLocked order wall request cancelled ⟨s.system.disk, fates⟩ with
          | (some (_, governor), w) => ⟨⟨governor, w.disk⟩, queue⟩
          | (none, w) => ⟨.boot w.disk, []⟩
  | .discard => { s with queue := s.queue.tail }

/-- A step of an object. -/
abbrev Step : Type := Transition Object Call

/-- A runtime that is shutting down is opened. -/
def Revives (t : Step) : Prop :=
  t.before.system.governor.isOpen = false ∧ t.before.system.governor.shuttingDown = true ∧
    (t.after step).system.governor.isOpen = true

end Object

/-! ## The flags of a call -/

namespace Governor

section

variable {g g' : Governor} {c : Command} {reply : Reply} {options : GovernorOptions}
  {policy : OversubscriptionPolicy} {order : MapOrder} {wall : UInt64} {request : EvaluationRequest}
  {cancelled : Bool}

/-- A governor with the flags of another. -/
structure SameFlags (g g' : Governor) : Prop where
  isOpen : g'.isOpen = g.isOpen
  accepting : g'.accepting = g.accepting
  shuttingDown : g'.shuttingDown = g.shuttingDown

theorem sameFlags_of_core (h : g'.core = g.core) : SameFlags g g' where
  isOpen := core_congr (·.isOpen) (fun _ => rfl) h
  accepting := core_congr (·.accepting) (fun _ => rfl) h
  shuttingDown := core_congr (·.shuttingDown) (fun _ => rfl) h

theorem SameFlags.coherent (h : SameFlags g g') (hg : Coherent g) : Coherent g' := by
  intro hopen haccepting
  rw [h.shuttingDown]
  exact hg (h.isOpen ▸ hopen) (h.accepting ▸ haccepting)

/-- Jobs are admitted where evaluations are, given that the flags agree. -/
theorem Coherent.admissive (h : Coherent g) : Admissive g := by
  intro hopen haccepting hworkers pending hroom
  have hdown := h hopen haccepting
  unfold submit
  rw [if_neg (by simp [hopen]), if_neg (by simp [haccepting]), if_neg hworkers, if_neg (by simp [hdown]),
    if_neg (Nat.not_le.mpr hroom)]

/-- A call that opens no runtime keeps the flags, or the runtime stops
accepting. -/
theorem Effect.lifecycle (h : Effect g c reply g') (hc : c.opens = false) :
    SameFlags g g' ∨ g'.accepting = false ∧ (g'.isOpen = true → g.isOpen = true) := by
  have hsame {x : Governor} (hcore : g'.core = x.core) (hx : SameFlags g x) : SameFlags g g' :=
    have h' := sameFlags_of_core hcore
    ⟨h'.isOpen.trans hx.isOpen, h'.accepting.trans hx.accepting, h'.shuttingDown.trans hx.shuttingDown⟩
  cases h with
  | kept _ hcore => exact .inl (sameFlags_of_core hcore)
  | opened => cases hc
  | stopped hwas hcore =>
      have hopen := (core_congr (·.isOpen) (fun _ => rfl) hcore :)
      exact .inr ⟨core_congr (·.accepting) (fun _ => rfl) hcore, fun h => hwas (hopen.symm.trans h)⟩
  | installed _ _ hcore => exact .inl (hsame hcore ⟨rfl, rfl, rfl⟩)
  | advanced _ hcore => exact .inl (hsame hcore ⟨rfl, rfl, rfl⟩)
  | registered _ hcore => exact .inl (hsame hcore ⟨rfl, rfl, rfl⟩)
  | adopted hcore => exact .inl (hsame hcore ⟨rfl, rfl, rfl⟩)
  | ingested _ h =>
      exact .inl ⟨rest_congr (·.isOpen) (fun _ => rfl) h.rest, rest_congr (·.accepting) (fun _ => rfl) h.rest,
        rest_congr (·.shuttingDown) (fun _ => rfl) h.rest⟩
  | evaluated h =>
      cases h with
      | refused hcore => exact .inl (sameFlags_of_core hcore)
      | recorded _ _ _ _ hcore => exact .inl (hsame hcore ⟨rfl, rfl, rfl⟩)

/-- An evaluation keeps the flags. -/
theorem yields_evaluateLocked_flags : Yields (g.evaluateLocked order wall request cancelled)
    fun r => SameFlags g r.2 := by
  unfold evaluateLocked
  split
  · exact yields_pure ⟨rfl, rfl, rfl⟩
  split
  · exact yields_pure ⟨rfl, rfl, rfl⟩
  dsimp only
  split
  · exact yields_pure ⟨rfl, rfl, rfl⟩
  split
  · exact yields_pure ⟨rfl, rfl, rfl⟩
  · refine yields_appendJournal.bind fun ⟨status, x⟩ hx => ?_
    replace hx : SameFlags g x := sameFlags_of_core hx
    dsimp only
    split
    · exact yields_pure hx
    · refine yields_persistState.bind fun ⟨status', x'⟩ hx' => yields_pure ?_
      have hlater := sameFlags_of_core hx'
      exact ⟨hlater.isOpen.trans hx.isOpen, hlater.accepting.trans hx.accepting,
        hlater.shuttingDown.trans hx.shuttingDown⟩

theorem yields_initializeLocked_flags : Yields (g.initializeLocked policy) fun r =>
    r.2.shuttingDown = g.shuttingDown ∧ r.2.isOpen = g.isOpen := by
  unfold initializeLocked
  dsimp only
  split
  · exact yields_pure ⟨rfl, rfl⟩
  · exact yields_persistState.mono fun r hr =>
      ⟨(sameFlags_of_core hr).shuttingDown, (sameFlags_of_core hr).isOpen⟩

/-- `shutting_down_` is as it was, and a runtime that opened accepts calls. -/
def KeepsDown (g g' : Governor) : Prop :=
  g'.shuttingDown = g.shuttingDown ∧ (g.isOpen = false → g'.isOpen = true → g'.accepting = true)

theorem KeepsDown.closed {g' : Governor} (hdown : g'.shuttingDown = g.shuttingDown) (hopen : g'.isOpen = g.isOpen) :
    KeepsDown g g' :=
  ⟨hdown, fun hclosed hlive => by simp [hopen, hclosed] at hlive⟩

/-- The last step of `open`, after whatever it read or wrote. -/
theorem keepsDown_opened {p : Storage (Status × Governor)}
    (h : Yields p fun r => r.2.shuttingDown = g.shuttingDown ∧ r.2.isOpen = g.isOpen) :
    Yields (do let r ← p; pure (opened r) : Storage (Status × Governor)) fun r => KeepsDown g r.2 := by
  refine h.bind fun r ⟨hdown, hopen⟩ => yields_pure ?_
  unfold opened
  split
  · exact ⟨hdown, fun _ _ => rfl⟩
  · exact .closed hdown hopen

/-- Opening a runtime leaves `shutting_down_` as it is. -/
theorem yields_open_flags : Yields (g.open options policy) fun r => KeepsDown g r.2 := by
  have hrefused {status : Status} {x : Governor} (hdown : x.shuttingDown = g.shuttingDown)
      (hopen : x.isOpen = g.isOpen) :
      Yields (pure (status, x) : Storage (Status × Governor)) fun r => KeepsDown g r.2 :=
    yields_pure (.closed hdown hopen)
  unfold Governor.open
  split
  · exact hrefused rfl rfl
  split
  · exact hrefused rfl rfl
  split
  · exact hrefused rfl rfl
  split
  · exact hrefused rfl rfl
  refine yields_true.bind fun ⟨status, store⟩ _ => ?_
  dsimp only
  split
  · exact hrefused rfl rfl
  refine yields_true.bind fun ⟨loaded, store⟩ _ => ?_
  dsimp only
  split
  · exact hrefused rfl rfl
  · refine keepsDown_opened ?_
    exact @yields_initializeLocked_flags { g with options, store } policy
  · split
    · exact hrefused rfl rfl
    · refine keepsDown_opened (yields_persistState.mono fun r hr => ?_)
      exact ⟨(sameFlags_of_core hr).shuttingDown, (sameFlags_of_core hr).isOpen⟩

end

end Governor

/-! ## The flags of a step -/

/-- How a step changes the flags of a governor. -/
inductive Shifts (g g' : Governor) : Prop
  | kept (h : Governor.SameFlags g g')
  | refusing (h : g'.accepting = false) (hwas : g'.isOpen = true → g.isOpen = true)
  | closed (h : g'.isOpen = false)
  | opened (hclosed : g.isOpen = false) (hopen : g'.isOpen = true) (haccepting : g'.accepting = true)
      (hdown : g'.shuttingDown = g.shuttingDown)

theorem System.shifts (s : System) (c : Call) : Shifts s.governor (s.step c).governor := by
  cases hreply : (s.perform c).1 with
  | none =>
      obtain ⟨w, _, hstep⟩ := perform_eq_none hreply
      rw [hstep]
      exact .closed rfl
  | some reply =>
      cases hc : c.command.opens with
      | false =>
          have heffect := effect_of_reply hreply
          exact (heffect.lifecycle hc).elim .kept fun hstopped => .refusing hstopped.1 hstopped.2
      | true =>
          obtain ⟨options, policy, hcommand⟩ := Command.opens_eq_true.mp hc
          obtain ⟨x, w, hp, hstep⟩ := perform_eq_some hreply
          have hyields : Yields (c.command.perform s.governor) fun r =>
              r.2.shuttingDown = s.governor.shuttingDown ∧
                (s.governor.isOpen = false → r.2.isOpen = true → r.2.accepting = true) := by
            rw [hcommand]
            exact Governor.yields_open_flags.bind fun r hr => yields_pure hr
          obtain ⟨hdown, haccepting⟩ := (hyields _).returned hp
          rw [hstep]
          cases hwas : s.governor.isOpen with
          | true =>
              obtain ⟨y, hboots, hy⟩ := open_cases hcommand
              rw [hreply, hstep] at hy
              have hx : x = y := hy.resolve_right fun hnone => nomatch hnone.1
              have hsame : x = s.governor := hx.trans (hboots.same hwas).1
              rw [hsame]
              exact .kept ⟨rfl, rfl, rfl⟩
          | false =>
              cases hopen : x.isOpen with
              | false => exact .closed hopen
              | true => exact .opened hwas hopen (haccepting hwas hopen) hdown

namespace Object

open Governor

variable {s : Object} {k : Call}

theorem system_call (s : Object) (c : System.Call) : (s.step (.call c)).system = s.system.step c := rfl

theorem system_after (s : Object) (c : System.Call) :
    (Transition.after step (⟨s, .call c⟩ : Step)).system = s.system.step c := rfl

theorem shifts (s : Object) (k : Call) : Shifts s.system.governor (s.step k).system.governor := by
  have hkept : Shifts s.system.governor s.system.governor := .kept ⟨rfl, rfl, rfl⟩
  cases k with
  | call c => exact s.system.shifts c
  | submit order wall request fates =>
      unfold step
      dsimp only
      split
      · exact hkept
      · exact s.system.shifts _
      · exact hkept
  | discard => exact hkept
  | work order wall cancelled fates =>
      unfold step
      cases hqueue : s.queue with
      | nil => exact hkept
      | cons request queue =>
          dsimp only
          split
          next result governor w hrun =>
            exact .kept ((Governor.yields_evaluateLocked_flags _).returned hrun)
          next => exact .closed rfl

/-- **A step** keeps the flags coherent unless it revives the object. -/
theorem coherent_step (h : s.system.governor.Coherent) :
    (s.step k).system.governor.Coherent ↔ ¬ Revives ⟨s, k⟩ := by
  have hrevives : Revives ⟨s, k⟩ ↔ s.system.governor.isOpen = false ∧
      s.system.governor.shuttingDown = true ∧ (s.step k).system.governor.isOpen = true := Iff.rfl
  rw [hrevives]
  cases s.shifts k with
  | kept hsame =>
      refine iff_of_true (hsame.coherent h) fun ⟨hclosed, _, hopen⟩ => ?_
      simp [hsame.isOpen, hclosed] at hopen
  | refusing hrefusing hwas =>
      refine iff_of_true (fun _ haccepting => ?_) fun ⟨hclosed, _, hopen⟩ => ?_
      · simp [hrefusing] at haccepting
      · simp [hwas hopen] at hclosed
  | closed hclosed =>
      refine iff_of_true (fun hopen => ?_) fun ⟨_, _, hopen⟩ => ?_
      · simp [hclosed] at hopen
      · simp [hclosed] at hopen
  | opened hclosed hopen haccepting hdown =>
      rw [← hdown]
      constructor
      · intro hcoherent ⟨_, hraised, _⟩
        simp [hcoherent hopen haccepting] at hraised
      · intro hkept _ _
        rw [← Bool.not_eq_true]
        exact fun hraised => hkept ⟨hclosed, hraised, hopen⟩

/-- A run whose steps do not revive the object. -/
theorem coherent_of_run {disk : Disk} {ts : List Step} (h : Run step (boot disk) ts s)
    (hkept : ∀ t ∈ ts, ¬ Revives t) : s.system.governor.Coherent := by
  induction h with
  | nil => exact nofun
  | snoc hrun k ih =>
      rw [List.forall_mem_append, List.forall_mem_singleton] at hkept
      exact (coherent_step (ih hkept.1)).mpr hkept.2

/-- **The lifecycle flags** of an object agree, and jobs are admitted where
evaluations are, after every step of a run exactly when no step revives it. -/
theorem lifecycle_coherent_iff {disk : Disk} {ts : List Step} (h : Run step (boot disk) ts s) :
    (∀ t ∈ ts, (t.after step).system.governor.Coherent ∧ (t.after step).system.governor.Admissive) ↔
      ∀ t ∈ ts, ¬ Revives t := by
  induction h with
  | nil => exact iff_of_true (List.forall_mem_nil _) (List.forall_mem_nil _)
  | snoc hrun k ih =>
      rw [List.forall_mem_append, List.forall_mem_append, List.forall_mem_singleton,
        List.forall_mem_singleton, ih]
      constructor
      · exact fun ⟨hkept, hafter⟩ => ⟨hkept, (coherent_step (coherent_of_run hrun hkept)).mp hafter.1⟩
      · intro ⟨hkept, hstep⟩
        have hafter := (coherent_step (coherent_of_run hrun hkept)).mpr hstep
        exact ⟨hkept, hafter, hafter.admissive⟩

/-! ## An object that was closed -/

/-- The governor of an object that was closed before it was opened. -/
def stoppedGovernor : Governor := { shuttingDown := true }

/-- It is opened. -/
def revived (policy : OversubscriptionPolicy) : Governor :=
  (stoppedGovernor.initialized sampleOptions emptyDisk policy).live

theorem step_revived {policy : OversubscriptionPolicy} (hp : (validatePolicy (initialPolicy policy)).isOk = true)
    (hlength : (writePolicy (initialPolicy policy)).length ≤ 4096) : ∃ disk,
      System.step ⟨stoppedGovernor, emptyDisk⟩ (openCall policy) = ⟨revived policy, disk⟩ := by
  have hsavable := savable_initialized hlength
  have hs : Savable (stoppedGovernor.initialized sampleOptions emptyDisk policy) :=
    ⟨hsavable.isOpen, hsavable.summaries, hsavable.fits⟩
  exact ⟨_, System.step_of_perform (System.perform_of_completes (completes_replying
    (completes_open_fresh rfl accepts_sample rfl hp hs)))⟩

/-- The steps of an object that is closed and then opened. -/
def revivingSteps : List Step :=
  [⟨boot emptyDisk, .call ⟨.close, []⟩⟩, ⟨⟨⟨stoppedGovernor, emptyDisk⟩, []⟩, .call (openCall samplePolicy)⟩]

theorem run_reviving : ∃ s, Run step (boot emptyDisk) revivingSteps s ∧
    s.system.governor = revived samplePolicy := by
  obtain ⟨disk, hrevived⟩ := step_revived initialPolicy_sample sample_checks.1
  have hclosed : (boot emptyDisk).step (.call ⟨.close, []⟩) = ⟨⟨stoppedGovernor, emptyDisk⟩, []⟩ := rfl
  have hrun : Run step (boot emptyDisk) _ _ := Run.nil.snoc (.call ⟨.close, []⟩)
  rw [hclosed] at hrun
  refine ⟨_, hrun.snoc (.call (openCall samplePolicy)), ?_⟩
  rw [system_call, hrevived]

theorem revived_incoherent {policy : OversubscriptionPolicy} : ¬ (revived policy).Coherent := by
  intro h
  have hraised : (revived policy).shuttingDown = true := rfl
  rw [h rfl rfl] at hraised
  cases hraised

/-- It accepts evaluations and refuses jobs. -/
theorem lifecycle_incoherent : ¬ ∀ (disk : Disk) (ts : List Step) (s : Object),
    Run step (boot disk) ts s → s.system.governor.Coherent := by
  intro h
  obtain ⟨s, hrun, hrevived⟩ := run_reviving
  exact revived_incoherent (hrevived ▸ h _ _ _ hrun)

/-- The steps of an object that is only opened, or closed first. -/
theorem lifecycle_coherent_sample :
    (∀ t ∈ [(⟨boot emptyDisk, .call (openCall samplePolicy)⟩ : Step)],
        (t.after step).system.governor.Coherent ∧ (t.after step).system.governor.Admissive) ∧
      ∃ t ∈ revivingSteps, Revives t := by
  constructor
  · refine (lifecycle_coherent_iff (Run.nil.snoc (.call (openCall samplePolicy)))).mpr ?_
    rw [List.nil_append, List.forall_mem_singleton]
    intro hrevives
    have hdown : (boot emptyDisk).system.governor.shuttingDown = true := hrevives.2.1
    cases hdown
  · obtain ⟨s, hrun, hrevived⟩ := run_reviving
    by_contra hkept
    have hcoherent := (lifecycle_coherent_iff hrun).mpr fun t ht hrevives => hkept ⟨t, ht, hrevives⟩
    have hlast := hcoherent _ (List.mem_cons_of_mem _ List.mem_cons_self)
    obtain ⟨disk, hstep⟩ := step_revived initialPolicy_sample sample_checks.1
    rw [system_after, hstep] at hlast
    exact @revived_incoherent samplePolicy hlast.1

end Object

end Oversub
