import Oversub.Runtime.Cancel
import Oversub.Runtime.Jobs

/-!
# Oversub.Runtime.JobCancel

Cancelled jobs.  `EvaluationJob::cancel` succeeds until the job is finished, but
the evaluation looks at the flag for the last time before it commits.  A cancel
that comes before that is final; one that comes later changes nothing.
-/

namespace Oversub

open Crash Files Trace Holdings

/-! ## Evaluations and the flag -/

/-- A result of cancelled work. -/
def Cancelled (result : Except Status Decision) : Prop :=
  ∃ status, result = .error status ∧ status.code = .cancelled

theorem cancelled_beforeStart : Cancelled (.error cancelledBeforeStart) := ⟨_, rfl, rfl⟩

theorem cancelled_byShutdown : Cancelled (.error cancelledByShutdown) := ⟨_, rfl, rfl⟩

namespace Governor

section

variable {g : Governor} {order : MapOrder} {wall : UInt64} {request : EvaluationRequest} {cancelled : Bool}
  {w : World FileName} {result : Except Status Decision}

theorem recordsRuling_cancelled : g.recordsRuling order wall request true w = false := by
  simp [recordsRuling]

/-- A flag that is up by then cancels the evaluation of a domain. -/
theorem evaluateLocked_flagged (hopen : g.isOpen = true) (hdomain : request.domain.valid = true) :
    Yields (g.evaluateLocked order wall request true) fun r => Cancelled r.1 := by
  unfold evaluateLocked
  rw [if_neg (by simp [hopen]), if_neg (by simp [hdomain])]
  exact yields_pure ⟨_, rfl, rfl⟩

/-- What was recorded is not reported as cancelled, for what the store reports is
not. -/
theorem evaluateLocked_recorded {g' : Governor} {w' : World FileName}
    (hrecords : g.recordsRuling order wall request cancelled w = true)
    (hrun : g.evaluateLocked order wall request cancelled w = (some (result, g'), w')) : ¬ Cancelled result := by
  simp only [recordsRuling, Bool.and_eq_true, Bool.not_eq_true', Bool.and_eq_false_iff,
    decide_eq_false_iff_not] at hrecords
  obtain ⟨⟨⟨⟨hopen, hdomain⟩, hflag⟩, hplace⟩, _⟩ := hrecords
  have hplace' : ¬ (((g.ticking request).runtime request.domain).isNone = true ∧
      kMaxDomainsState ≤ (g.ticking request).state.domains.length) := by
    rintro ⟨hnone, hfull⟩
    exact hplace.elim (fun h => by simp [ticking, runtime] at hnone h; simp [hnone] at h) fun h => h hfull
  have hyields : Yields (g.evaluateLocked order wall request cancelled) fun r => ¬ Cancelled r.1 := by
    unfold evaluateLocked
    rw [if_neg (by simp [hopen]), if_neg (by simp [hdomain])]
    dsimp only
    rw [if_neg (by simp [hflag])]
    split
    next hfull => exact absurd hfull hplace'
    next =>
      refine yields_appendJournal_storing.bind fun r hstatus => ?_
      obtain ⟨status, x⟩ := r
      dsimp only
      split
      · refine yields_pure ?_
        rintro ⟨status', heq, hcode⟩
        exact hstatus.1 (by rw [Except.error.inj heq, hcode])
      · refine yields_persistState_storing.bind fun r hstatus => yields_pure ?_
        obtain ⟨status, x⟩ := r
        dsimp only
        split
        · rintro ⟨status', heq, _⟩
          cases heq
        · rintro ⟨status', heq, hcode⟩
          exact hstatus.1 (by rw [Except.error.inj heq, hcode])
  exact (hyields _).returned hrun

theorem yields_evaluate_flags : Yields (g.evaluate order wall request) fun r => SameFlags g r.2 := by
  unfold evaluate
  split
  · exact yields_pure (.refl g)
  · exact yields_evaluateLocked_flags

end

end Governor

/-! ## Jobs that were cancelled in time -/

/-- If the worker has the job, it has not passed its last look at the flag, or
saw it up; and the evaluation will not refuse the request before it looks. -/
def Worker.Spares (job : Nat) : Worker → Prop
  | .waiting | .exited | .taken _ => True
  | .cleared pending => pending.job = job → pending.request.domain.valid = true
  | .evaluating pending cancelled =>
      pending.job = job → cancelled = true ∧ pending.request.domain.valid = true
  | .finishing job' result => job' = job → Cancelled result

/-- The worker is about to finish a job. -/
def Worker.finishes : Worker → Bool
  | .finishing _ _ => true
  | _ => false

theorem Worker.ne_finishing {worker : Worker} {job : Nat} {result : Except Status Decision}
    (h : worker.finishes = false) : worker ≠ .finishing job result := by
  intro heq
  rw [heq] at h
  cases h

theorem Worker.spares_of_not_held {worker : Worker} {job : Nat} (h : job ∉ worker.held) : worker.Spares job := by
  cases worker with
  | waiting => trivial
  | exited => trivial
  | taken => trivial
  | cleared pending => exact fun heq => absurd (List.mem_singleton.mpr heq.symm) h
  | evaluating pending => exact fun heq => absurd (List.mem_singleton.mpr heq.symm) h
  | finishing job' => exact fun heq => absurd (List.mem_singleton.mpr heq.symm) h

namespace Pool

/-- A cancel of the job comes before the last look at the flag. -/
def InTime (s : Pool) (job : Nat) : Prop := ∀ worker ∈ s.workers, worker.Spares job

/-- The step calls `cancel` of the job, and the call returns true. -/
def Cancels (t : Step) (job : Nat) : Prop :=
  t.before.alive = true ∧ job < t.before.next ∧ (t.before.jobs job).done = false ∧
    (t.label = .cancel job ∨
      ∃ c, t.label = .sweep c ∧ t.before.callers[c]? = some .stopping ∧ job ∈ t.before.queue.map (·.job))

/-- The runtime is open, and what was recorded for a job is reported as such. -/
structure Sound (s : Pool) : Prop where
  isOpen : s.alive = true → s.system.governor.isOpen = true
  recorded : ∀ job ∈ s.recorded, job < s.next ∧
    ((s.jobs job).results ≠ [] ∨ ∃ result, .finishing job result ∈ s.workers ∧ ¬ Cancelled result)

/-- A job that was cancelled in time. -/
structure Doomed (s : Pool) (job : Nat) : Prop where
  created : job < s.next
  flag : (s.jobs job).cancelFlag = true
  workers : s.InTime job
  results : ∀ result ∈ (s.jobs job).results, Cancelled result
  unrecorded : job ∉ s.recorded

section

variable {s s' : Pool} {i job k : Nat} {worker worker' : Worker} {result r : Except Status Decision}

/-- A worker that is about to finish a job stays, if it is not the one that
moves. -/
theorem mem_setWorker (hworker : s.workers[i]? = some worker) (hnot : worker ≠ .finishing job result)
    (hmem : .finishing job result ∈ s.workers) : .finishing job result ∈ s.workers.set i worker' := by
  obtain ⟨j, hj, hget⟩ := List.mem_iff_getElem.mp hmem
  have hne : i ≠ j := by
    intro hij
    subst hij
    rw [List.getElem?_eq_getElem hj, hget] at hworker
    exact hnot (Option.some.inj hworker).symm
  rw [List.mem_iff_getElem]
  exact ⟨j, by rwa [List.length_set], by rw [List.getElem_set_ne hne, hget]⟩

theorem results_finish : ((s.jobs k).finish result).results ≠ [] := by
  simp [EvaluationJob.finish]

/-- A step that changes no record and finishes no job. -/
theorem Sound.congr (h : Sound s) (hopen : s'.alive = true → s'.system.governor.isOpen = true)
    (hrecorded : s'.recorded = s.recorded) (hnext : s.next ≤ s'.next)
    (hresults : ∀ job, (s.jobs job).results ≠ [] → (s'.jobs job).results ≠ [])
    (hworkers : ∀ job result, .finishing job result ∈ s.workers → .finishing job result ∈ s'.workers) :
    Sound s' where
  isOpen := hopen
  recorded job hjob := by
    rw [hrecorded] at hjob
    obtain ⟨hcreated, hreported⟩ := h.recorded job hjob
    refine ⟨Nat.lt_of_lt_of_le hcreated hnext, hreported.imp (hresults job) fun ⟨result, hmem, hbad⟩ => ?_⟩
    exact ⟨result, hworkers job result hmem, hbad⟩

/-- A worker that is not about to finish a job moves. -/
theorem Sound.setWorker (h : Sound s) (hopen : s.system.governor.isOpen = true)
    (hworker : s.workers[i]? = some worker) (hworkers : s'.workers = s.workers.set i worker')
    (hfinishes : worker.finishes = false) (hsystem : s'.system = s.system) (hrecorded : s'.recorded = s.recorded)
    (hjobs : s'.jobs = s.jobs) (hnext : s'.next = s.next) : Sound s' := by
  refine h.congr (fun _ => hsystem ▸ hopen) hrecorded hnext.ge (fun _ => hjobs ▸ id) fun job result hmem => ?_
  rw [hworkers]
  exact mem_setWorker hworker (Worker.ne_finishing hfinishes) hmem

/-- Finishing a job takes no result from any. -/
theorem results_setJob (hjob : (s.jobs job).results ≠ []) :
    (Function.update s.jobs k ((s.jobs k).finish result) job).results ≠ [] := by
  by_cases heq : job = k
  · rw [heq, Function.update_self]
    exact results_finish
  · rwa [Function.update_of_ne heq]

/-- Cancelling jobs takes no result from any. -/
theorem results_setJob_cancel (hjob : (s.jobs job).results ≠ []) :
    (Function.update s.jobs k (s.jobs k).cancel job).results ≠ [] := by
  by_cases heq : job = k
  · rw [heq, Function.update_self, results_cancel, ← heq]
    exact hjob
  · rwa [Function.update_of_ne heq]

theorem Moves.sound {e : Event} (hmoves : Moves s e s') (halive : s.alive = true) (howned : Owned s) (h : Sound s) :
    Sound s' := by
  have hopen := h.isOpen halive
  cases hmoves with
  | same => exact h
  | crashed => exact h.congr nofun rfl (Nat.le_refl _) (fun _ => id) fun _ _ => id
  | called hflags =>
      exact h.congr (fun _ => hflags.isOpen.trans hopen) rfl (Nat.le_refl _) (fun _ => id) fun _ _ => id
  | submitting => exact h.congr (fun _ => hopen) rfl (Nat.le_refl _) (fun _ => id) fun _ _ => id
  | refused => exact h.congr (fun _ => hopen) rfl (Nat.le_refl _) (fun _ => id) fun _ _ => id
  | queued => exact h.congr (fun _ => hopen) rfl (Nat.le_succ _) (fun _ => id) fun _ _ => id
  | @evaluated c request n order wall fates result governor w hcaller hrun =>
      have hflags := (Governor.yields_evaluate_flags _).returned hrun
      refine ⟨fun _ => hflags.isOpen.trans hopen, fun job hjob => ?_⟩
      dsimp only [Pool.setCaller, setJob] at hjob ⊢
      split at hjob
      · rcases List.mem_append.mp hjob with hjob | hjob
        · obtain ⟨hcreated, hreported⟩ := h.recorded job hjob
          exact ⟨Nat.lt_succ_of_lt hcreated, hreported.imp_left results_setJob⟩
        · rw [List.mem_singleton.mp hjob, Function.update_self]
          exact ⟨Nat.lt_succ_self _, .inl results_finish⟩
      · obtain ⟨hcreated, hreported⟩ := h.recorded job hjob
        exact ⟨Nat.lt_succ_of_lt hcreated, hreported.imp_left results_setJob⟩
  | left hworker => exact h.setWorker hopen hworker rfl rfl rfl rfl rfl rfl
  | took hworker => exact h.setWorker hopen hworker rfl rfl rfl rfl rfl rfl
  | flagged hworker => exact h.setWorker hopen hworker rfl rfl rfl rfl rfl rfl
  | cleared hworker => exact h.setWorker hopen hworker rfl rfl rfl rfl rfl rfl
  | entered hworker => exact h.setWorker hopen hworker rfl rfl rfl rfl rfl rfl
  | @committed i pending cancelled order wall fates result governor w hworker hrun =>
      have hflags := (Governor.yields_evaluateLocked_flags _).returned hrun
      refine ⟨fun _ => hflags.isOpen.trans hopen, fun job hjob => ?_⟩
      have hbefore (hjob : job ∈ s.recorded) : job < s.next ∧ ((s.jobs job).results ≠ [] ∨
          ∃ result', .finishing job result' ∈ s.workers.set i (.finishing pending.job result) ∧
            ¬ Cancelled result') := by
        obtain ⟨hcreated, hreported⟩ := h.recorded job hjob
        refine ⟨hcreated, hreported.imp_right fun ⟨result', hmem, hbad⟩ => ⟨result', ?_, hbad⟩⟩
        exact mem_setWorker hworker (Worker.ne_finishing rfl) hmem
      dsimp only [Pool.setWorker] at hjob ⊢
      split at hjob
      next hrecords =>
        rcases List.mem_append.mp hjob with hjob | hjob
        · exact hbefore hjob
        · have hi : i < s.workers.length := (List.getElem?_eq_some_iff.mp hworker).1
          rw [List.mem_singleton.mp hjob]
          exact ⟨howned.held_lt hworker List.mem_cons_self, .inr ⟨result, List.mem_set hi _,
            Governor.evaluateLocked_recorded hrecords hrun⟩⟩
      next => exact hbefore hjob
  | @reported i job result hworker =>
      refine ⟨fun _ => hopen, fun job' hjob => ?_⟩
      obtain ⟨hcreated, hreported⟩ := h.recorded job' hjob
      refine ⟨hcreated, ?_⟩
      dsimp only [Pool.setWorker, setJob]
      by_cases heq : job' = job
      · rw [heq, Function.update_self]
        exact .inl results_finish
      · refine hreported.imp results_setJob fun ⟨result', hmem, hbad⟩ => ⟨result', ?_, hbad⟩
        refine mem_setWorker hworker (fun hsame => heq ?_) hmem
        exact (List.singleton_inj.mp (congrArg Worker.held hsame)).symm
  | cancelled =>
      exact h.congr (fun _ => hopen) rfl (Nat.le_refl _) (fun _ => results_setJob_cancel) fun _ _ => id
  | swept =>
      refine h.congr (fun _ => hopen) rfl (Nat.le_refl _) (fun job hjob => ?_) fun _ _ => id
      dsimp only
      split
      · rwa [results_cancel]
      · exact hjob
  | stopping => exact h.congr (fun _ => hopen) rfl (Nat.le_refl _) (fun _ => id) fun _ _ => id
  | finished => exact h.congr (fun _ => hopen) rfl (Nat.le_refl _) (fun _ => results_setJob) fun _ _ => id
  | returned _ _ hflags =>
      exact h.congr (fun _ => hflags.isOpen.trans hopen) rfl (Nat.le_refl _) (fun _ => id) fun _ _ => id

/-- A job stays doomed where its flag, its results and its records do. -/
theorem Doomed.congr (h : Doomed s job) (hnext : s.next ≤ s'.next)
    (hflag : (s'.jobs job).cancelFlag = (s.jobs job).cancelFlag)
    (hresults : (s'.jobs job).results = (s.jobs job).results) (hrecorded : s'.recorded = s.recorded)
    (hworkers : s'.InTime job) : Doomed s' job where
  created := Nat.lt_of_lt_of_le h.created hnext
  flag := hflag.trans h.flag
  workers := hworkers
  results := hresults ▸ h.results
  unrecorded := hrecorded ▸ h.unrecorded

theorem flag_cancel {j : EvaluationJob} (h : j.cancelFlag = true) : j.cancel.cancelFlag = true := by
  unfold EvaluationJob.cancel
  split
  · exact h
  · rfl

/-- Cancelling and finishing jobs as cancelled keeps a job doomed. -/
theorem Doomed.jobs (h : Doomed s job) (hnext : s'.next = s.next)
    (hflag : (s.jobs job).cancelFlag = true → (s'.jobs job).cancelFlag = true)
    (hresults : ∀ result ∈ (s'.jobs job).results, result ∈ (s.jobs job).results ∨ Cancelled result)
    (hrecorded : s'.recorded = s.recorded) (hworkers : s'.InTime job) : Doomed s' job where
  created := hnext ▸ h.created
  flag := hflag h.flag
  workers := hworkers
  results result hresult := (hresults result hresult).elim (h.results result) id
  unrecorded := hrecorded ▸ h.unrecorded

theorem results_update_finish (hresult : result ∈ (Function.update s.jobs k ((s.jobs k).finish r) job).results)
    (hk : k = job → Cancelled r) : result ∈ (s.jobs job).results ∨ Cancelled result := by
  by_cases heq : job = k
  · subst heq
    rw [Function.update_self, EvaluationJob.finish, List.mem_append, List.mem_singleton] at hresult
    refine hresult.imp_right fun hsame => ?_
    rw [hsame]
    exact hk rfl
  · rw [Function.update_of_ne heq] at hresult
    exact .inl hresult

theorem flag_update_finish : (Function.update s.jobs k ((s.jobs k).finish r) job).cancelFlag =
    (s.jobs job).cancelFlag := by
  by_cases heq : job = k
  · subst heq
    rw [Function.update_self]
    rfl
  · rw [Function.update_of_ne heq]

theorem InTime.setWorker (h : s.InTime job) (hworker : worker.Spares job) :
    ∀ w ∈ s.workers.set i worker, w.Spares job := forall_mem_set h hworker

/-- **A job that was cancelled in time** stays so. -/
theorem Moves.doomed {e : Event} (hmoves : Moves s e s') (halive : s.alive = true) (hs : Sound s) (h : Doomed s job) :
    Doomed s' job := by
  have hopen := hs.isOpen halive
  have hspares {i : Nat} {worker : Worker} (hworker : s.workers[i]? = some worker) : worker.Spares job :=
    h.workers worker (List.mem_of_getElem? hworker)
  cases hmoves with
  | same => exact h
  | crashed => exact h.congr (Nat.le_refl _) rfl rfl rfl h.workers
  | called => exact h.congr (Nat.le_refl _) rfl rfl rfl h.workers
  | submitting => exact h.congr (Nat.le_refl _) rfl rfl rfl h.workers
  | refused => exact h.congr (Nat.le_refl _) rfl rfl rfl h.workers
  | queued => exact h.congr (Nat.le_succ _) rfl rfl rfl h.workers
  | @evaluated c request n order wall fates result governor w =>
      have hne : job ≠ s.next := Nat.ne_of_lt h.created
      refine ⟨Nat.lt_succ_of_lt h.created, flag_update_finish.trans h.flag, h.workers, fun r hr => ?_, ?_⟩
      · dsimp only [Pool.setCaller, setJob] at hr
        rw [Function.update_of_ne hne] at hr
        exact h.results r hr
      · dsimp only [Pool.setCaller, setJob]
        split
        · rw [List.mem_append, List.mem_singleton, not_or]
          exact ⟨h.unrecorded, hne⟩
        · exact h.unrecorded
  | left => exact h.congr (Nat.le_refl _) rfl rfl rfl (h.workers.setWorker trivial)
  | took => exact h.congr (Nat.le_refl _) rfl rfl rfl (h.workers.setWorker trivial)
  | flagged => exact h.congr (Nat.le_refl _) rfl rfl rfl (h.workers.setWorker fun _ => cancelled_beforeStart)
  | cleared _ hflag =>
      refine h.congr (Nat.le_refl _) rfl rfl rfl (h.workers.setWorker fun heq => ?_)
      rw [heq, h.flag] at hflag
      cases hflag
  | entered hworker =>
      refine h.congr (Nat.le_refl _) rfl rfl rfl (h.workers.setWorker fun heq => ⟨?_, hspares hworker heq⟩)
      rw [heq]
      exact h.flag
  | @committed i pending cancelled order wall fates result governor w hworker hrun =>
      refine ⟨h.created, h.flag, h.workers.setWorker fun heq => ?_, h.results, ?_⟩
      · obtain ⟨hflag, hdomain⟩ := hspares hworker heq
        rw [hflag] at hrun
        exact (Governor.evaluateLocked_flagged hopen hdomain _).returned hrun
      · dsimp only [Pool.setWorker]
        split
        next hrecords =>
          rw [List.mem_append, List.mem_singleton, not_or]
          refine ⟨h.unrecorded, fun heq => ?_⟩
          rw [(hspares hworker heq.symm).1, Governor.recordsRuling_cancelled] at hrecords
          cases hrecords
        next => exact h.unrecorded
  | reported hworker =>
      refine h.jobs rfl (fun hflag => flag_update_finish.trans hflag) (fun r hr => ?_) rfl
        (h.workers.setWorker trivial)
      exact results_update_finish hr (hspares hworker)
  | @cancelled k =>
      refine h.jobs rfl (fun hflag => ?_) (fun r hr => .inl ?_) rfl h.workers
      · dsimp only [setJob]
        by_cases heq : job = k
        · subst heq
          rw [Function.update_self]
          exact flag_cancel hflag
        · rwa [Function.update_of_ne heq]
      · dsimp only [setJob] at hr
        by_cases heq : job = k
        · subst heq
          rwa [Function.update_self, results_cancel] at hr
        · rwa [Function.update_of_ne heq] at hr
  | stopping => exact h.congr (Nat.le_refl _) rfl rfl rfl h.workers
  | swept =>
      refine h.jobs rfl (fun hflag => ?_) (fun r hr => .inl ?_) rfl h.workers
      · dsimp only
        split
        · exact flag_cancel hflag
        · exact hflag
      · dsimp only at hr
        split at hr
        · rwa [results_cancel] at hr
        · exact hr
  | finished =>
      refine h.jobs rfl (fun hflag => flag_update_finish.trans hflag) (fun r hr => ?_) rfl h.workers
      exact results_update_finish hr fun _ => cancelled_byShutdown
  | returned => exact h.congr (Nat.le_refl _) rfl rfl rfl h.workers

/-! ## Runs -/

/-- A cancel that succeeds comes too late. -/
def Late (t : Step) : Prop := ∃ job, t.label = .cancel job ∧ Cancels t job ∧ ¬ t.before.InTime job

theorem step_of_dead {e : Event} (h : s.alive = false) : s.step e = s := by
  unfold step
  rw [if_pos (by simp [h])]

theorem sound_start {system : System} {workers callers : Nat} (hopen : system.governor.isOpen = true) :
    Sound (start system workers callers) := ⟨fun _ => hopen, List.forall_mem_nil _⟩

theorem Sound.step (h : Sound s) (howned : Owned s) (e : Event) : Sound (s.step e) := by
  cases halive : s.alive with
  | false => rwa [step_of_dead halive]
  | true => exact (moves_step s e).sound halive howned h

theorem Doomed.step (h : Doomed s job) (hs : Sound s) (e : Event) : Doomed (s.step e) job := by
  cases halive : s.alive with
  | false => rwa [step_of_dead halive]
  | true => exact (moves_step s e).doomed halive hs h

/-- A job that is not finished, and that no worker has finished in its mind,
was not recorded. -/
theorem Sound.unrecorded (h : Sound s) (hdone : (s.jobs job).done = false) (hin : s.InTime job) :
    job ∉ s.recorded := by
  intro hjob
  obtain ⟨_, hresults | ⟨result, hmem, hbad⟩⟩ := h.recorded job hjob
  · simp only [EvaluationJob.done, Bool.not_eq_false', List.isEmpty_iff] at hdone
    exact hresults hdone
  · exact hbad (hin _ hmem rfl)

/-- The jobs of the queue are at no worker. -/
theorem Owned.inTime (h : Owned s) (hjob : job ∈ s.queue.map (·.job)) : s.InTime job := by
  intro worker hworker
  refine Worker.spares_of_not_held fun hheld => ?_
  have hqueue := List.count_pos_iff.mpr hjob
  have hworkers := List.count_pos_iff.mpr (List.mem_flatMap.mpr ⟨worker, hworker, hheld⟩)
  have hcount := h job
  rw [count_holders] at hcount
  split at hcount <;> omega

/-- A cancel in time dooms the job. -/
theorem doomed_of_cancels {t : Step} (hs : Sound t.before) (howned : Owned t.before) (hcancel : Cancels t job)
    (hlate : ¬ Late t) : Doomed (t.after Pool.step) job := by
  obtain ⟨s, e⟩ := t
  obtain ⟨halive, hcreated, hdone, hlabel⟩ := id hcancel
  have hlive : ¬ (!s.alive) = true := by simpa using halive
  have hresults : (s.jobs job).results = [] := by
    simpa [EvaluationJob.done] using hdone
  have hflag : ((s.jobs job).cancel).cancelFlag = true := by
    unfold EvaluationJob.cancel
    rw [if_neg (by simpa using hdone)]
  rcases hlabel with hlabel | ⟨c, hlabel, hcaller, hqueue⟩
  · have hin : s.InTime job := by
      by_contra hin
      exact hlate ⟨job, hlabel, hcancel, hin⟩
    have hstep : Transition.after Pool.step ⟨s, e⟩ = s.setJob job .cancel := by
      unfold Transition.after Pool.step
      rw [if_neg hlive, hlabel]
      exact if_pos hcreated
    rw [hstep]
    refine ⟨hcreated, ?_, hin, ?_, hs.unrecorded hdone hin⟩
    · rwa [jobs_setJob_self]
    · rw [jobs_setJob_self, results_cancel, hresults]
      exact List.forall_mem_nil _
  · have hin := howned.inTime hqueue
    have hstep : Transition.after Pool.step ⟨s, e⟩ = s.sweep c := by
      unfold Transition.after Pool.step
      rw [if_neg hlive, hlabel]
    rw [hstep, sweep, hcaller]
    refine ⟨hcreated, ?_, hin, ?_, hs.unrecorded hdone hin⟩
    · dsimp only
      rwa [if_pos hqueue]
    · dsimp only
      rw [if_pos hqueue, results_cancel, hresults]
      exact List.forall_mem_nil _

theorem sound_of_run {system : System} {workers callers : Nat} {ts : List Step}
    (hrun : Run step (start system workers callers) ts s) (hopen : system.governor.isOpen = true) :
    Owned s ∧ Sound s :=
  hrun.invariant (I := fun s => Owned s ∧ Sound s) ⟨owned_start, sound_start hopen⟩ fun s e h =>
    ⟨(moves_step s e).owned h.1, h.2.step h.1 e⟩

theorem doomed_of_run {ts : List Step} (hrun : Run step s ts s') (howned : Owned s) (hs : Sound s)
    (h : Doomed s job) : Owned s' ∧ Sound s' ∧ Doomed s' job :=
  hrun.invariant (I := fun s => Owned s ∧ Sound s ∧ Doomed s job) ⟨howned, hs, h⟩ fun s e h =>
    ⟨(moves_step s e).owned h.1, h.2.1.step h.1 e, h.2.2.step h.2.1 e⟩

/-- **A successful cancel is final** as long as every cancel comes in time: the
job is finished as cancelled, if it is not on its way there, and no decision was
recorded for it. -/
theorem cancel_final {system : System} {workers callers : Nat} {ts : List Step} {t : Step}
    (hrun : Run step (start system workers callers) ts s) (hopen : system.governor.isOpen = true)
    (htime : ∀ t ∈ ts, ¬ Late t) (ht : t ∈ ts) (hcancel : Cancels t job) :
    (∀ result ∈ (s.jobs job).results, Cancelled result) ∧ job ∉ s.recorded ∧
      s.holders.count job + (s.jobs job).results.length = 1 := by
  obtain ⟨us, vs, rfl⟩ := List.append_of_mem ht
  obtain ⟨hbefore, hafter⟩ := hrun.at_step
  obtain ⟨howned, hs⟩ := sound_of_run hbefore hopen
  have hdoomed := doomed_of_cancels hs howned hcancel (htime t ht)
  obtain ⟨howned', _, hd⟩ := doomed_of_run hafter ((moves_step t.before t.label).owned howned)
    (hs.step howned t.label) hdoomed
  have hcount := howned' job
  rw [if_pos hd.created] at hcount
  exact ⟨hd.results, hd.unrecorded, hcount⟩

/-! ## A cancel that comes too late -/

/-- A runtime that takes jobs. -/
structure Employs (g : Governor) : Prop where
  isOpen : g.isOpen = true
  accepting : g.accepting = true
  workers : g.options.workerThreads ≠ 0
  running : g.shuttingDown = false
  pending : g.options.maxPendingJobs.toNat ≠ 0

/-- A job is submitted. -/
def submits (request : EvaluationRequest) : List Event := [.submitOpen 0 request, .submitQueue 0]

/-- A worker evaluates it, up to its last look at the flag. -/
def evaluates (request : EvaluationRequest) : List Event := submits request ++ [.dequeue 0, .test 0, .enter 0]

variable {system : System} {request : EvaluationRequest} {callers : Nat}

/-- The pool with the job in the queue. -/
def queueing (system : System) (callers : Nat) (request : EvaluationRequest) : Pool :=
  { start system 1 (callers + 1) with queue := [⟨0, request⟩], next := 1 }

/-- The pool past the last look at the flag. -/
def evaluating (system : System) (callers : Nat) (request : EvaluationRequest) : Pool :=
  { start system 1 (callers + 1) with
    next := 1, workers := [.evaluating ⟨0, request⟩ false], lock := some 0 }

theorem foldl_submits (h : Employs system.governor) :
    (submits request).foldl step (start system 1 (callers + 1)) = queueing system callers request := by
  have hpending := h.pending
  simp [submits, step, submitOpen, submitQueue, start, Pool.setCaller, h.isOpen, h.accepting, h.workers, h.running,
    hpending, List.replicate_succ, queueing]

theorem foldl_evaluates (h : Employs system.governor) :
    (evaluates request).foldl step (start system 1 (callers + 1)) = evaluating system callers request := by
  rw [evaluates, List.foldl_append, foldl_submits h]
  simp [step, dequeue, test, enter, start, Pool.setWorker, queueing, evaluating]

theorem cancels_queueing : Cancels ⟨queueing system callers request, .cancel 0⟩ 0 :=
  ⟨rfl, Nat.zero_lt_one, rfl, .inl rfl⟩

theorem cancels_evaluating : Cancels ⟨evaluating system callers request, .cancel 0⟩ 0 :=
  ⟨rfl, Nat.zero_lt_one, rfl, .inl rfl⟩

/-- The job is cancelled after that, and finished with its decision. -/
theorem foldl_late {d : Decision} {governor : Governor} {w : World FileName}
    (hrun : system.governor.evaluateLocked .listed 0 request false ⟨system.disk, []⟩ =
      (some (.ok d, governor), w)) :
    ((([.commit 0 .listed 0 [], .report 0] : List Event).foldl step
      ((evaluating system callers request).step (.cancel 0))).jobs 0).results = [.ok d] := by
  simp [step, cancelJob, commit, report, Pool.setWorker, setJob, evaluating, start, hrun, EvaluationJob.finish,
    EvaluationJob.cancel, EvaluationJob.done]

/-- It is cancelled in the queue. -/
theorem foldl_early :
    ((([.dequeue 0, .test 0, .report 0] : List Event).foldl step
      ((queueing system callers request).step (.cancel 0))).jobs 0).results = [.error cancelledBeforeStart] := by
  simp [step, cancelJob, dequeue, test, report, Pool.setWorker, setJob, queueing, start, EvaluationJob.finish,
    EvaluationJob.cancel, EvaluationJob.done]

/-- A run with a cancel that comes too late. -/
theorem run_late {d : Decision} {governor : Governor} {w : World FileName} (h : Employs system.governor)
    (hrun : system.governor.evaluateLocked .listed 0 request false ⟨system.disk, []⟩ =
      (some (.ok d, governor), w)) :
    ∃ ts s t, Run step (start system 1 (callers + 1)) ts s ∧ t ∈ ts ∧ Cancels t 0 ∧
      (s.jobs 0).results = [.ok d] := by
  have hplay : Run step (start system 1 (callers + 1)) _ _ :=
    run_play_at (.cancel 0) [.commit 0 .listed 0 [], .report 0] (@foldl_evaluates _ request _ h)
  have hlate := @foldl_late _ request callers _ _ _ hrun
  refine ⟨_, _, ⟨evaluating system callers request, .cancel 0⟩, hplay, ?_, cancels_evaluating, hlate⟩
  exact List.mem_append_right _ List.mem_cons_self

theorem options_pooled {policy : OversubscriptionPolicy} :
    (Governor.pooled policy).options = Governor.pooledOptions := rfl

theorem employs_pooled {policy : OversubscriptionPolicy} : Employs (Governor.pooled policy) where
  isOpen := rfl
  accepting := rfl
  workers := by
    rw [options_pooled]
    decide
  running := rfl
  pending := by
    rw [options_pooled]
    decide

/-- The job of a sample request is evaluated. -/
theorem evaluateLocked_pooled (disk : Disk) : ∃ d governor w,
    (Governor.pooled samplePolicy).evaluateLocked .listed 0 Governor.sampleRequest false ⟨disk, []⟩ =
      (some (.ok d, governor), w) := by
  have hroomy : Governor.Roomy (99 + 1) (Governor.pooled samplePolicy) :=
    Governor.roomy_pooled Governor.sample_checks.1
  have hanswers : Governor.Answers .listed 0 (Governor.pooled samplePolicy) Governor.sampleRequest :=
    hroomy.answers rfl
  have hcompletes := @Governor.completes_evaluate _ disk _ _ _ hanswers
  have hevaluate : (Governor.pooled samplePolicy).evaluate .listed 0 Governor.sampleRequest =
      (Governor.pooled samplePolicy).evaluateLocked .listed 0 Governor.sampleRequest false := by
    unfold Governor.evaluate
    exact if_neg (by simp [hanswers.accepting])
  rw [hevaluate] at hcompletes
  exact ⟨_, _, _, hcompletes⟩

/-- A cancel that returns true is not final: the job is finished with a decision. -/
theorem cancel_not_final : ¬ ∀ (disk : Disk) (us : List Oversub.Step) (system : System) (workers callers : Nat)
    (ts : List Step) (s : Pool) (t : Step) (job : Nat), SessionRun disk us system →
    system.governor.isOpen = true → workers = system.governor.options.workerThreads.toNat →
    Run step (start system workers callers) ts s → t ∈ ts → Cancels t job →
    ∀ result ∈ (s.jobs job).results, Cancelled result := by
  intro h
  obtain ⟨disk, hsession⟩ := Governor.sample_pooled
  obtain ⟨d, governor, w, hevaluated⟩ := evaluateLocked_pooled disk
  obtain ⟨ts, s, t, hrun, ht, hcancel, hresults⟩ :=
    @run_late ⟨Governor.pooled samplePolicy, disk⟩ _ 0 _ _ _ employs_pooled hevaluated
  have hworkers : 1 = (Governor.pooled samplePolicy).options.workerThreads.toNat := by
    rw [options_pooled]
    rfl
  have hcancelled := h _ _ _ _ _ _ _ _ _ hsession rfl hworkers hrun ht hcancel
  rw [hresults, List.forall_mem_singleton] at hcancelled
  obtain ⟨status, hstatus, _⟩ := hcancelled
  cases hstatus

theorem not_late_of_label {t : Step} (h : ∀ job, t.label ≠ .cancel job) : ¬ Late t :=
  fun ⟨job, hlabel, _⟩ => h job hlabel

/-- No cancel of such a run is late. -/
theorem not_late_queueing {s x : Pool} : ∀ t ∈ play step s (submits request) ++
    ⟨queueing system callers request, .cancel 0⟩ :: play step x [.dequeue 0, .test 0, .report 0], ¬ Late t := by
  intro t ht
  rcases List.mem_append.mp ht with ht | ht
  · have hlabel := label_of_mem_play ht
    refine not_late_of_label fun job heq => ?_
    rw [heq] at hlabel
    simp [submits] at hlabel
  rcases List.mem_cons.mp ht with rfl | ht
  · intro ⟨job, _, _, hlate⟩
    exact hlate (List.forall_mem_singleton.mpr trivial)
  · have hlabel := label_of_mem_play ht
    refine not_late_of_label fun job heq => ?_
    rw [heq] at hlabel
    simp at hlabel

/-- A pool whose job was cancelled in the queue. -/
def recalled : Pool :=
  ([.dequeue 0, .test 0, .report 0] : List Event).foldl step
    ((queueing ⟨Governor.pooled samplePolicy, Governor.emptyDisk⟩ 0 Governor.sampleRequest).step (.cancel 0))

/-- The job was finished as cancelled. -/
theorem cancel_final_sample : (recalled.jobs 0).results = [.error cancelledBeforeStart] ∧
    (∀ result ∈ (recalled.jobs 0).results, Cancelled result) ∧ 0 ∉ recalled.recorded := by
  have hrun := run_play_at (.cancel 0) [.dequeue 0, .test 0, .report 0]
    (@foldl_submits ⟨Governor.pooled samplePolicy, Governor.emptyDisk⟩ Governor.sampleRequest 0 employs_pooled)
  have hfinal := cancel_final hrun rfl not_late_queueing (List.mem_append_right _ List.mem_cons_self)
    cancels_queueing
  exact ⟨foldl_early, hfinal.1, hfinal.2.1⟩

end

end Pool

end Oversub
