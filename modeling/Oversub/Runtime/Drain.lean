import Oversub.Lib.Simulation
import Oversub.Runtime.JobCancel

/-!
# Oversub.Runtime.Drain

What becomes of the jobs.  A job that is finished with a decision is one whose
decision was recorded, once, and one that is finished as cancelled was never
recorded.  A shutdown empties the queue for good and waits for the workers,
which have only so much left to do: when it returns, every job is finished.
-/

namespace Oversub

open Crash Files Trace Holdings

/-! ## Decisions and records -/

section

variable {g g' : Governor} {order : MapOrder} {wall : UInt64} {request : EvaluationRequest} {cancelled : Bool}
  {w w' : World FileName} {d : Decision}

theorem Governor.meets_error {P : Prop} {status : Status} :
    Meets (pure (.error status, g) : Storage (Except Status Decision × Governor))
      (fun r _ => ∀ d, r.1 = .ok d → P) (fun _ => True) w := fun _ h => nomatch h

/-- A decision that is reported was recorded. -/
theorem Governor.meets_recordsRuling : Meets (g.evaluateLocked order wall request cancelled)
    (fun r _ => ∀ d, r.1 = .ok d → g.recordsRuling order wall request cancelled w = true) (fun _ => True) w := by
  unfold evaluateLocked
  split
  · exact meets_error
  next hopen =>
  split
  · exact meets_error
  next hdomain =>
  dsimp only
  split
  · exact meets_error
  next hflag =>
  split
  · exact meets_error
  next hplace =>
  have hplace' : ((g.runtime request.domain).isNone && decide (kMaxDomainsState ≤ g.state.domains.length)) = false := by
    rw [Bool.and_eq_false_iff, decide_eq_false_iff_not]
    exact (Decidable.not_and_iff_or_not.mp hplace).imp_left fun h => Bool.not_eq_true _ ▸ h
  have hrecords {status : Status} {x : Governor} {u : World FileName}
      (hrun : (g.ticking request).appendJournal (g.ruling order wall request).record w = (some (status, x), u)) :
      g.recordsRuling order wall request cancelled w = status.isOk := by
    simp only [Bool.not_eq_true', Bool.not_eq_false, Bool.not_eq_true] at hopen hdomain hflag
    rw [recordsRuling, hopen, hdomain, hflag, hplace', hrun]
    rfl
  rw [meets_bind]
  refine meets_self.mono (fun r u hrun => ?_) fun _ _ => trivial
  obtain ⟨status, x⟩ := r
  rw [hrecords hrun]
  dsimp only
  split
  · exact meets_error
  next hok =>
    rw [Bool.not_eq_true', Bool.not_eq_false] at hok
    exact (yields_true u).mono (fun _ _ _ _ _ => hok) fun _ _ => trivial

theorem Governor.recordsRuling_of_ok
    (hrun : g.evaluateLocked order wall request cancelled w = (some (.ok d, g'), w')) :
    g.recordsRuling order wall request cancelled w = true := meets_recordsRuling.returned hrun d rfl

theorem Governor.recordsRuling_of_evaluate (hrun : g.evaluate order wall request w = (some (.ok d, g'), w')) :
    (g.accepting && g.recordsRuling order wall request false w) = true := by
  unfold evaluate at hrun
  split at hrun
  · exact nomatch congrArg Prod.fst hrun
  next haccepting =>
    rw [Bool.not_eq_true', Bool.not_eq_false] at haccepting
    rw [haccepting, recordsRuling_of_ok hrun]
    rfl

theorem Governor.evaluate_recorded {result : Except Status Decision} (haccepting : g.accepting = true)
    (hrecords : g.recordsRuling order wall request false w = true)
    (hrun : g.evaluate order wall request w = (some (result, g'), w')) : ¬ Cancelled result := by
  unfold evaluate at hrun
  rw [if_neg (by simp [haccepting])] at hrun
  exact evaluateLocked_recorded hrecords hrun

end

namespace Pool

/-- A job was finished with a result, or a worker is about to. -/
def Reports (s : Pool) (job : Nat) (result : Except Status Decision) : Prop :=
  result ∈ (s.jobs job).results ∨ Worker.finishing job result ∈ s.workers

/-- The records of jobs agree with what the jobs are told. -/
structure Booked (s : Pool) : Prop where
  ok : ∀ job d, s.Reports job (.ok d) → job ∈ s.recorded
  cancelled : ∀ job result, s.Reports job result → Cancelled result → job ∉ s.recorded
  once : s.recorded.Nodup

section

variable {s s' : Pool} {i c job k : Nat} {worker worker' : Worker} {result r : Except Status Decision}

theorem results_mem_update (h : r ∈ (Function.update s.jobs job ((s.jobs job).finish result) k).results) :
    r ∈ (s.jobs k).results ∨ k = job ∧ r = result := by
  by_cases heq : k = job
  · subst heq
    rw [Function.update_self] at h
    exact (List.mem_append.mp h).imp_right fun h => ⟨rfl, List.mem_singleton.mp h⟩
  · rw [Function.update_of_ne heq] at h
    exact .inl h

theorem mem_held_of_finishing {l : List Worker} (h : .finishing job r ∈ l) : job ∈ l.flatMap Worker.held :=
  List.mem_flatMap.mpr ⟨_, h, (List.mem_singleton_self job : job ∈ (Worker.finishing job r).held)⟩

/-- What nobody has a result for was not recorded. -/
theorem Sound.not_recorded (h : Sound s) (hnot : ∀ r, ¬ s.Reports job r) : job ∉ s.recorded := by
  intro hjob
  obtain ⟨-, hresults | ⟨result, hmem, -⟩⟩ := h.recorded job hjob
  · obtain ⟨result, hresult⟩ := List.exists_mem_of_ne_nil _ hresults
    exact hnot result (.inl hresult)
  · exact hnot result (.inr hmem)

/-- A job that a worker has no result for yet was not told any. -/
theorem Owned.not_reports_held (h : Owned s) (hworker : s.workers[i]? = some worker) (hjob : job ∈ worker.held)
    (hfinishes : worker.finishes = false) : ¬ s.Reports job r := by
  have hcount := h job
  have hset := @count_setWorker s i worker .waiting hworker job
  have hheld := List.count_pos_iff.mpr hjob
  have hnone : Worker.waiting.held.count job = 0 := rfl
  have hone : (if job < s.next then 1 else 0) ≤ 1 := by split <;> omega
  rw [count_holders] at hcount
  rintro (hresult | hfinishing)
  · have hpos := List.length_pos_of_mem hresult
    omega
  · have hmem : .finishing job r ∈ s.workers.set i .waiting :=
      mem_setWorker hworker (Worker.ne_finishing hfinishes) hfinishing
    have hpos := List.count_pos_iff.mpr (mem_held_of_finishing hmem)
    omega

/-- Nor was one that a shutdown has yet to finish. -/
theorem Owned.not_reports_abandoned {caller : Caller} (h : Owned s) (hcaller : s.callers[c]? = some caller)
    (hjob : job ∈ caller.abandoned) : ¬ s.Reports job r := by
  have hcount := h job
  have hheld := List.count_pos_iff.mpr (List.mem_flatMap.mpr ⟨_, List.mem_of_getElem? hcaller, hjob⟩)
  have hone : (if job < s.next then 1 else 0) ≤ 1 := by split <;> omega
  rw [count_holders] at hcount
  rintro (hresult | hfinishing)
  · have hpos := List.length_pos_of_mem hresult
    omega
  · have hpos := List.count_pos_iff.mpr (mem_held_of_finishing hfinishing)
    omega

/-- Nor was the next job. -/
theorem Owned.not_reports_next (h : Owned s) : ¬ s.Reports s.next r := by
  rintro (hresult | hfinishing)
  · rw [h.results_next] at hresult
    cases hresult
  · obtain ⟨i, hi, hget⟩ := List.mem_iff_getElem.mp hfinishing
    have hworker : s.workers[i]? = some (.finishing s.next r) := by rw [List.getElem?_eq_getElem hi, hget]
    exact absurd (h.held_lt hworker (List.mem_singleton_self _)) (Nat.lt_irrefl _)

/-- A step that tells nobody anything new. -/
theorem Booked.congr (h : Booked s) (hreports : ∀ k r, s'.Reports k r → s.Reports k r)
    (hrecorded : s'.recorded = s.recorded) : Booked s' where
  ok k d hk := hrecorded ▸ h.ok k d (hreports k _ hk)
  cancelled k r hk := hrecorded ▸ h.cancelled k r (hreports k r hk)
  once := hrecorded ▸ h.once

/-- A step that makes a result for a job that has none. -/
theorem Booked.told (h : Booked s) (hs : Sound s) (result : Except Status Decision) (records : Bool)
    (hnot : ∀ r, ¬ s.Reports job r) (hreports : ∀ k r, s'.Reports k r → s.Reports k r ∨ k = job ∧ r = result)
    (hrecorded : s'.recorded = if records = true then s.recorded ++ [job] else s.recorded)
    (hok : ∀ d, result = .ok d → records = true) (hcancelled : Cancelled result → records = false) : Booked s' := by
  have hnew : job ∉ s.recorded := hs.not_recorded hnot
  have hmem (k : Nat) : k ∈ s'.recorded ↔ k ∈ s.recorded ∨ records = true ∧ k = job := by
    rw [hrecorded]
    split
    next hrecords => simp [hrecords]
    next hrecords => simp [hrecords]
  refine ⟨fun k d hk => (hmem k).mpr ?_, fun k r hk hr hjob => ?_, ?_⟩
  · rcases hreports k _ hk with hk | ⟨rfl, hd⟩
    · exact .inl (h.ok k d hk)
    · exact .inr ⟨hok d hd.symm, rfl⟩
  · rcases hreports k r hk with hk | ⟨rfl, rfl⟩
    · rcases (hmem k).mp hjob with hjob | ⟨-, rfl⟩
      · exact h.cancelled k r hk hr hjob
      · exact hnot r hk
    · rcases (hmem k).mp hjob with hjob | ⟨hrecords, -⟩
      · exact hnew hjob
      · exact absurd hrecords (by simp [hcancelled hr])
  · rw [hrecorded]
    split
    · exact List.Nodup.append h.once (List.nodup_singleton _) (List.disjoint_singleton.mpr hnew)
    · exact h.once

/-- A step that refuses a job. -/
theorem Booked.dismissed (h : Booked s) (hs : Sound s) (status : Status) (hnot : ∀ r, ¬ s.Reports job r)
    (hreports : ∀ k r, s'.Reports k r → s.Reports k r ∨ k = job ∧ r = .error status)
    (hrecorded : s'.recorded = s.recorded) : Booked s' :=
  h.told hs (.error status) false hnot hreports hrecorded (fun _ heq => nomatch heq) fun _ => rfl

theorem results_cancel_update :
    (Function.update s.jobs job (s.jobs job).cancel k).results = (s.jobs k).results := by
  by_cases heq : k = job
  · rw [heq, Function.update_self, results_cancel]
  · rw [Function.update_of_ne heq]

theorem finishing_inj (h : Worker.finishing job result = .finishing k r) : k = job ∧ r = result := by
  obtain ⟨rfl, rfl⟩ := Worker.finishing.inj h
  exact ⟨rfl, rfl⟩

/-- A result that some worker is about to report. -/
theorem reports_setWorker (h : .finishing k r ∈ s.workers.set i worker') :
    s.Reports k r ∨ worker' = .finishing k r :=
  (List.mem_or_eq_of_mem_set h).imp .inr Eq.symm

/-- A worker that makes no result moves. -/
theorem Booked.setWorker (h : Booked s) (hworkers : s'.workers = s.workers.set i worker')
    (hfinishes : worker'.finishes = false) (hjobs : s'.jobs = s.jobs) (hrecorded : s'.recorded = s.recorded) :
    Booked s' := by
  refine h.congr (fun k r hk => ?_) hrecorded
  rcases hk with hresult | hfinishing
  · exact .inl (hjobs ▸ hresult)
  · rw [hworkers] at hfinishing
    exact (reports_setWorker hfinishing).resolve_right (Worker.ne_finishing hfinishes)

/-- **Every step** keeps the records and the results in agreement. -/
theorem Moves.booked {e : Event} (hmoves : Moves s e s') (howned : Owned s) (hs : Sound s) (h : Booked s) :
    Booked s' := by
  cases hmoves with
  | same => exact h
  | crashed => exact h.congr (fun _ _ => id) rfl
  | called => exact h.congr (fun _ _ => id) rfl
  | submitting => exact h.congr (fun _ _ => id) rfl
  | refused => exact h.congr (fun _ _ => id) rfl
  | queued => exact h.congr (fun _ _ => id) rfl
  | @evaluated c request n order wall fates result governor w hcaller hrun =>
      refine h.told hs result _ (fun _ => howned.not_reports_next) (fun k r hk => ?_) rfl (fun d hd => ?_) fun hbad => ?_
      · exact hk.elim (fun hresult => (results_mem_update hresult).imp_left .inl) fun hmem => .inl (.inr hmem)
      · rw [hd] at hrun
        exact Governor.recordsRuling_of_evaluate hrun
      · rw [Bool.and_eq_false_iff, ← Bool.not_eq_true, ← Bool.not_eq_true, ← not_and_or]
        exact fun hboth => Governor.evaluate_recorded hboth.1 hboth.2 hrun hbad
  | left => exact h.setWorker rfl rfl rfl rfl
  | took => exact h.setWorker rfl rfl rfl rfl
  | @flagged i pending hworker =>
      refine h.dismissed hs cancelledBeforeStart
        (fun _ => howned.not_reports_held hworker (List.mem_singleton_self _) rfl) (fun k r hk => ?_) rfl
      exact hk.elim (fun hresult => .inl (.inl hresult)) fun hmem => (reports_setWorker hmem).imp_right finishing_inj
  | cleared => exact h.setWorker rfl rfl rfl rfl
  | entered => exact h.setWorker rfl rfl rfl rfl
  | @committed i pending cancelled order wall fates result governor w hworker hrun =>
      refine h.told hs result _ (fun _ => howned.not_reports_held hworker (List.mem_singleton_self _) rfl)
        (fun k r hk => ?_) rfl (fun d hd => ?_) fun hbad => ?_
      · exact hk.elim (fun hresult => .inl (.inl hresult)) fun hmem =>
          (reports_setWorker hmem).imp_right finishing_inj
      · rw [hd] at hrun
        exact Governor.recordsRuling_of_ok hrun
      · rw [← Bool.not_eq_true]
        exact fun hrecords => Governor.evaluateLocked_recorded hrecords hrun hbad
  | @reported i job result hworker =>
      refine h.congr (fun k r hk => ?_) rfl
      rcases hk with hresult | hmem
      · rcases results_mem_update hresult with hresult | ⟨rfl, rfl⟩
        · exact .inl hresult
        · exact .inr (List.mem_of_getElem? hworker)
      · exact .inr ((List.mem_or_eq_of_mem_set hmem).resolve_right nofun)
  | cancelled =>
      refine h.congr (fun k r hk => hk.imp_left fun hresult => ?_) rfl
      exact results_cancel_update ▸ hresult
  | @swept c hcaller =>
      refine h.congr (fun k r hk => hk.imp_left fun hresult => ?_) rfl
      dsimp only at hresult
      split at hresult
      · rwa [results_cancel] at hresult
      · exact hresult
  | @finished c job jobs hcaller =>
      refine h.dismissed hs cancelledByShutdown
        (fun _ => howned.not_reports_abandoned hcaller List.mem_cons_self) (fun k r hk => ?_) rfl
      exact hk.elim (fun hresult => (results_mem_update hresult).imp_left .inl) fun hmem => .inl (.inr hmem)
  | stopping => exact h.congr (fun _ _ => id) rfl
  | returned => exact h.congr (fun _ _ => id) rfl

theorem booked_start {system : System} {workers callers : Nat} : Booked (start system workers callers) where
  ok _ _ hk := hk.elim nofun fun hmem => nomatch (List.mem_replicate.mp hmem).2
  cancelled _ _ _ _ := List.not_mem_nil
  once := List.nodup_nil

theorem booked_of_run {system : System} {workers callers : Nat} {ts : List Step}
    (hrun : Run step (start system workers callers) ts s) (hopen : system.governor.isOpen = true) :
    Owned s ∧ Sound s ∧ Booked s :=
  hrun.invariant (I := fun s => Owned s ∧ Sound s ∧ Booked s) ⟨owned_start, sound_start hopen, booked_start⟩
    fun s e h => ⟨(moves_step s e).owned h.1, h.2.1.step h.1 e, (moves_step s e).booked h.1 h.2.1 h.2.2⟩

/-- **Jobs and records agree** in every interleaving: a job is finished once at
most, one that is finished with a decision was recorded, and only once, and one
that is finished as cancelled never was. -/
theorem jobs_booked {system : System} {workers callers : Nat} {ts : List Step}
    (hrun : Run step (start system workers callers) ts s) (hopen : system.governor.isOpen = true) :
    (s.jobs job).results.length ≤ 1 ∧ (∀ d, .ok d ∈ (s.jobs job).results → s.recorded.count job = 1) ∧
      (∀ result ∈ (s.jobs job).results, Cancelled result → job ∉ s.recorded) ∧
        (job ∈ s.recorded → job < s.next) := by
  obtain ⟨howned, hsound, hbooked⟩ := booked_of_run hrun hopen
  refine ⟨?_, fun d hd => ?_, fun result hresult => hbooked.cancelled job result (.inl hresult), fun hjob =>
    (hsound.recorded job hjob).1⟩
  · have hcount := howned job
    split at hcount <;> omega
  · exact List.count_eq_one_of_mem hbooked.once (hbooked.ok job d (.inl hd))

/-- A job that was evaluated, and whose cancel came too late. -/
theorem jobs_booked_sample : ∃ system ts s d, Run step (start system 1 1) ts s ∧
    (s.jobs 0).results = [.ok d] ∧ (s.jobs 0).results.length ≤ 1 ∧ s.recorded.count 0 = 1 ∧ 0 < s.next := by
  obtain ⟨d, governor, w, hevaluated⟩ := evaluateLocked_pooled Governor.emptyDisk
  obtain ⟨ts, s, -, hrun, -, -, hresults⟩ :=
    @run_late ⟨Governor.pooled samplePolicy, Governor.emptyDisk⟩ _ 0 _ _ _ employs_pooled hevaluated
  obtain ⟨hle, hok, -, hlt⟩ := @jobs_booked _ 0 _ _ _ _ hrun rfl
  have hcount := hok d (hresults ▸ List.mem_singleton_self _)
  exact ⟨_, ts, s, d, hrun, hresults, hle, hcount, hlt (List.count_pos_iff.mp (hcount ▸ Nat.zero_lt_one))⟩

end

/-! ## Shutdowns -/

/-- The queue is empty, and stays so. -/
def Draining (s : Pool) : Prop := s.alive = true → s.system.governor.shuttingDown = true ∧ s.queue = []

/-- The worker that holds `mutex_` is evaluating. -/
def Locked (s : Pool) : Prop := ∀ i, s.lock = some i → ∃ pending cancelled,
  s.workers[i]? = some (.evaluating pending cancelled)

section

variable {s s' : Pool} {i c job : Nat} {worker worker' : Worker} {caller caller' : Caller} {e : Event}

theorem Moves.draining (hmoves : Moves s e s') (halive : s.alive = true) (h : Draining s) : Draining s' := by
  obtain ⟨hdown, hqueue⟩ := h halive
  cases hmoves with
  | same => exact h
  | crashed => exact nofun
  | called hflags => exact fun _ => ⟨hflags.shuttingDown.trans hdown, hqueue⟩
  | submitting => exact fun _ => ⟨hdown, hqueue⟩
  | refused => exact fun _ => ⟨hdown, hqueue⟩
  | queued _ hup => exact absurd hup (by simp [hdown])
  | evaluated _ hrun =>
      have hflags := (Governor.yields_evaluate_flags _).returned hrun
      exact fun _ => ⟨hflags.shuttingDown.trans hdown, hqueue⟩
  | left => exact fun _ => ⟨hdown, hqueue⟩
  | took _ hsome => exact absurd (hqueue.symm.trans hsome) nofun
  | flagged => exact fun _ => ⟨hdown, hqueue⟩
  | cleared => exact fun _ => ⟨hdown, hqueue⟩
  | entered => exact fun _ => ⟨hdown, hqueue⟩
  | committed _ hrun =>
      have hflags := (Governor.yields_evaluateLocked_flags _).returned hrun
      exact fun _ => ⟨hflags.shuttingDown.trans hdown, hqueue⟩
  | reported => exact fun _ => ⟨hdown, hqueue⟩
  | cancelled => exact fun _ => ⟨hdown, hqueue⟩
  | stopping => exact fun _ => ⟨hdown, hqueue⟩
  | swept => exact fun _ => ⟨rfl, rfl⟩
  | finished => exact fun _ => ⟨hdown, hqueue⟩
  | returned _ _ hflags => exact fun _ => ⟨hflags.shuttingDown.trans hdown, hqueue⟩

theorem Draining.step (h : Draining s) (e : Event) : Draining (s.step e) := by
  cases halive : s.alive with
  | false => rwa [step_of_dead halive]
  | true => exact (moves_step s e).draining halive h

/-- Another worker moves. -/
theorem Locked.setWorker (h : Locked s) (hworker : s.workers[i]? = some worker)
    (hnot : ∀ pending cancelled, worker ≠ .evaluating pending cancelled)
    (hworkers : s'.workers = s.workers.set i worker') (hlock : s'.lock = s.lock) : Locked s' := by
  intro j hj
  rw [hlock] at hj
  obtain ⟨pending, cancelled, hget⟩ := h j hj
  have hne : i ≠ j := by
    rintro rfl
    exact hnot pending cancelled (Option.some.inj (hworker.symm.trans hget))
  exact ⟨pending, cancelled, by rw [hworkers, List.getElem?_set_ne hne, hget]⟩

theorem Moves.locked (hmoves : Moves s e s') (h : Locked s) : Locked s' := by
  cases hmoves with
  | same => exact h
  | crashed => exact h
  | called => exact h
  | submitting => exact h
  | refused => exact h
  | queued => exact h
  | evaluated => exact h
  | left hworker => exact h.setWorker hworker nofun rfl rfl
  | took hworker => exact h.setWorker hworker nofun rfl rfl
  | flagged hworker => exact h.setWorker hworker nofun rfl rfl
  | cleared hworker => exact h.setWorker hworker nofun rfl rfl
  | @entered i pending hworker =>
      intro j hj
      obtain rfl := Option.some.inj hj
      have hi := (List.getElem?_eq_some_iff.mp hworker).1
      exact ⟨pending, _, List.getElem?_set_self hi⟩
  | committed => exact nofun
  | reported hworker => exact h.setWorker hworker nofun rfl rfl
  | cancelled => exact h
  | stopping => exact h
  | swept => exact h
  | finished => exact h
  | returned => exact h

/-- Once a shutdown is past the queue, no job is enqueued any more. -/
theorem Moves.swept_draining (hmoves : Moves s e s') (halive : s.alive = true)
    (h : ∀ jobs, .sweeping jobs ∈ s.callers → Draining s) : ∀ jobs, .sweeping jobs ∈ s'.callers → Draining s' := by
  have hkept (hcaller : ∀ jobs, .sweeping jobs ∈ s'.callers → ∃ jobs', .sweeping jobs' ∈ s.callers) :
      ∀ jobs, .sweeping jobs ∈ s'.callers → Draining s' := by
    intro jobs hjobs
    obtain ⟨jobs', hjobs'⟩ := hcaller jobs hjobs
    exact hmoves.draining halive (h jobs' hjobs')
  have hset {c : Nat} {caller' : Caller} (hnot : ∀ jobs, caller' ≠ .sweeping jobs) (jobs : List Nat)
      (hjobs : .sweeping jobs ∈ s.callers.set c caller') : ∃ jobs', .sweeping jobs' ∈ s.callers :=
    ⟨jobs, (List.mem_or_eq_of_mem_set hjobs).resolve_right (Ne.symm (hnot jobs))⟩
  cases hmoves with
  | same => exact h
  | crashed => exact fun _ _ => nofun
  | called => exact hkept fun jobs hjobs => ⟨jobs, hjobs⟩
  | submitting => exact hkept (hset nofun)
  | refused => exact hkept (hset nofun)
  | queued => exact hkept (hset nofun)
  | evaluated => exact hkept (hset nofun)
  | left => exact hkept fun jobs hjobs => ⟨jobs, hjobs⟩
  | took => exact hkept fun jobs hjobs => ⟨jobs, hjobs⟩
  | flagged => exact hkept fun jobs hjobs => ⟨jobs, hjobs⟩
  | cleared => exact hkept fun jobs hjobs => ⟨jobs, hjobs⟩
  | entered => exact hkept fun jobs hjobs => ⟨jobs, hjobs⟩
  | committed => exact hkept fun jobs hjobs => ⟨jobs, hjobs⟩
  | reported => exact hkept fun jobs hjobs => ⟨jobs, hjobs⟩
  | cancelled => exact hkept fun jobs hjobs => ⟨jobs, hjobs⟩
  | stopping => exact hkept (hset nofun)
  | swept => exact fun _ _ _ => ⟨rfl, rfl⟩
  | finished hcaller => exact hkept fun _ _ => ⟨_, List.mem_of_getElem? hcaller⟩
  | returned => exact hkept (hset nofun)

end

/-! ### What is left to do -/

/-- The steps a worker has before it, if the queue is empty. -/
def stage : Worker → Nat
  | .taken _ => 5
  | .cleared _ => 4
  | .evaluating _ _ => 3
  | .finishing _ _ => 2
  | .waiting => 1
  | .exited => 0

/-- And all workers and shutdowns. -/
def stages (s : Pool) : Nat :=
  if s.alive then (s.workers.map stage).sum + (s.callers.map fun caller => caller.abandoned.length).sum else 0

/-- A step of a worker or a shutdown that has something to do. -/
def apt (s : Pool) : Event → Bool
  | .dequeue i =>
      match s.workers[i]? with
      | some .waiting => !s.queue.isEmpty || s.system.governor.shuttingDown
      | _ => false
  | .test i => (s.workers[i]? matches some (.taken _))
  | .enter i => (s.workers[i]? matches some (.cleared _)) && s.lock.isNone
  | .commit i _ _ _ => (s.workers[i]? matches some (.evaluating _ _))
  | .report i => (s.workers[i]? matches some (.finishing _ _))
  | .finishAbandoned c => (s.callers[c]? matches some (.sweeping (_ :: _)))
  | _ => false

def aptStep (t : Step) : Nat := if (t.before.alive && t.before.apt t.label) = true then 1 else 0

section

variable {s s' : Pool} {i c job : Nat} {worker worker' : Worker} {caller caller' : Caller} {e : Event}

theorem stages_crashed {disk : Disk} : (s.crashed disk).stages = 0 := rfl

/-- A worker that moves. -/
theorem stages_setWorker (halive : s.alive = true) (hworker : s.workers[i]? = some worker)
    (halive' : s'.alive = s.alive) (hworkers : s'.workers = s.workers.set i worker')
    (hcallers : s'.callers = s.callers) : s'.stages + stage worker = s.stages + stage worker' := by
  have hsum := @sum_map_set _ _ i worker worker' stage hworker
  rw [stages, stages, halive', halive, if_pos rfl, if_pos rfl, hworkers, hcallers]
  omega

/-- A caller that moves. -/
theorem stages_setCaller (halive : s.alive = true) (hcaller : s.callers[c]? = some caller)
    (halive' : s'.alive = s.alive) (hworkers : s'.workers = s.workers)
    (hcallers : s'.callers = s.callers.set c caller') :
    s'.stages + caller.abandoned.length = s.stages + caller'.abandoned.length := by
  have hsum := @sum_map_set _ _ c caller caller' (fun caller => caller.abandoned.length) hcaller
  rw [stages, stages, halive', halive, if_pos rfl, if_pos rfl, hworkers, hcallers]
  omega

theorem le_stages (halive : s.alive = true) (hworker : s.workers[i]? = some worker) : stage worker ≤ s.stages := by
  have hle : stage worker ≤ (s.workers.map stage).sum :=
    List.single_le_sum (fun _ _ => Nat.zero_le _) _ (List.mem_map_of_mem (List.mem_of_getElem? hworker))
  rw [stages, halive, if_pos rfl]
  omega

/-- No step adds to what is left to do. -/
theorem Moves.stages_le (hmoves : Moves s e s') (halive : s.alive = true) (h : Draining s) :
    s'.stages ≤ s.stages := by
  obtain ⟨hdown, hqueue⟩ := h halive
  have hworker {x : Pool} {i : Nat} {worker worker' : Worker} (hget : s.workers[i]? = some worker)
      (halive' : x.alive = s.alive) (hworkers : x.workers = s.workers.set i worker')
      (hcallers : x.callers = s.callers) (hle : stage worker' ≤ stage worker) : x.stages ≤ s.stages := by
    have hset := stages_setWorker halive hget halive' hworkers hcallers
    omega
  have hcaller {x : Pool} {c : Nat} {caller caller' : Caller} (hget : s.callers[c]? = some caller)
      (halive' : x.alive = s.alive) (hworkers : x.workers = s.workers)
      (hcallers : x.callers = s.callers.set c caller') (hle : caller'.abandoned.length ≤ caller.abandoned.length) :
      x.stages ≤ s.stages := by
    have hset := stages_setCaller halive hget halive' hworkers hcallers
    omega
  cases hmoves with
  | same => exact Nat.le_refl _
  | crashed => exact Nat.zero_le _
  | called => exact Nat.le_refl _
  | submitting hget => exact hcaller hget rfl rfl rfl (Nat.zero_le _)
  | refused hget => exact hcaller hget rfl rfl rfl (Nat.zero_le _)
  | queued _ hup => exact absurd hup (by simp [hdown])
  | evaluated hget => exact hcaller hget rfl rfl rfl (Nat.zero_le _)
  | left hget => exact hworker hget rfl rfl rfl (Nat.zero_le _)
  | took _ hsome => exact absurd (hqueue.symm.trans hsome) nofun
  | flagged hget => exact hworker hget rfl rfl rfl (by decide : 2 ≤ 5)
  | cleared hget => exact hworker hget rfl rfl rfl (by decide : 4 ≤ 5)
  | entered hget => exact hworker hget rfl rfl rfl (by decide : 3 ≤ 4)
  | committed hget => exact hworker hget rfl rfl rfl (by decide : 2 ≤ 3)
  | reported hget => exact hworker hget rfl rfl rfl (by decide : 1 ≤ 2)
  | cancelled => exact Nat.le_refl _
  | stopping hget => exact hcaller hget rfl rfl rfl (Nat.zero_le _)
  | swept hget =>
      refine hcaller hget rfl rfl rfl ?_
      rw [hqueue]
      exact Nat.zero_le _
  | finished hget => exact hcaller hget rfl rfl rfl (Nat.le_succ _)
  | returned hget => exact hcaller hget rfl rfl rfl (Nat.zero_le _)

/-- A step that has something to do leaves less to do. -/
theorem Draining.stages_lt (h : Draining s) (halive : s.alive = true) (hapt : s.apt e = true) :
    (s.step e).stages < s.stages := by
  obtain ⟨hdown, hqueue⟩ := h halive
  have hworker {x : Pool} {i : Nat} {worker worker' : Worker} (hget : s.workers[i]? = some worker)
      (halive' : x.alive = s.alive) (hworkers : x.workers = s.workers.set i worker')
      (hcallers : x.callers = s.callers) (hlt : stage worker' < stage worker) : x.stages < s.stages := by
    have hset := stages_setWorker halive hget halive' hworkers hcallers
    omega
  have hcaller {x : Pool} {c : Nat} {caller caller' : Caller} (hget : s.callers[c]? = some caller)
      (halive' : x.alive = s.alive) (hworkers : x.workers = s.workers)
      (hcallers : x.callers = s.callers.set c caller') (hlt : caller'.abandoned.length < caller.abandoned.length) :
      x.stages < s.stages := by
    have hset := stages_setCaller halive hget halive' hworkers hcallers
    omega
  unfold Pool.step
  rw [if_neg (by simp [halive])]
  cases e with
  | dequeue i =>
      dsimp only [apt] at hapt
      split at hapt
      next hget =>
        dsimp only [dequeue]
        rw [hget, hqueue]
        dsimp only
        rw [if_pos hdown]
        exact hworker hget rfl rfl rfl Nat.zero_lt_one
      next => cases hapt
  | test i =>
      dsimp only [apt] at hapt
      split at hapt
      next hget =>
        dsimp only [test]
        rw [hget]
        dsimp only
        split
        · exact hworker hget rfl rfl rfl (by decide : 2 < 5)
        · exact hworker hget rfl rfl rfl (by decide : 4 < 5)
      next => cases hapt
  | enter i =>
      dsimp only [apt] at hapt
      rw [Bool.and_eq_true, Option.isNone_iff_eq_none] at hapt
      obtain ⟨hapt, hlock⟩ := hapt
      split at hapt
      next hget =>
        dsimp only [enter]
        rw [hget, hlock]
        exact hworker hget rfl rfl rfl (by decide : 3 < 4)
      next => cases hapt
  | commit i order wall fates =>
      dsimp only [apt] at hapt
      split at hapt
      next hget =>
        dsimp only [commit]
        rw [hget]
        dsimp only
        split
        · exact hworker hget rfl rfl rfl (by decide : 2 < 3)
        · rw [stages_crashed]
          exact Nat.lt_of_lt_of_le (by decide : 0 < 3) (le_stages halive hget)
      next => cases hapt
  | report i =>
      dsimp only [apt] at hapt
      split at hapt
      next hget =>
        dsimp only [report]
        rw [hget]
        exact hworker hget rfl rfl rfl (by decide : 1 < 2)
      next => cases hapt
  | finishAbandoned c =>
      dsimp only [apt] at hapt
      split at hapt
      next job jobs hget =>
        dsimp only [finishAbandoned]
        rw [hget]
        exact hcaller hget rfl rfl rfl (Nat.lt_succ_self _)
      next => cases hapt
  | submitOpen | submitQueue | submitInline | cancel | stopAccepting | sweep | joinWorkers | call => cases hapt

theorem Draining.stages_step (h : Draining s) (e : Event) : (s.step e).stages + aptStep ⟨s, e⟩ ≤ s.stages := by
  unfold aptStep
  split
  next hboth =>
    rw [Bool.and_eq_true] at hboth
    exact h.stages_lt hboth.1 hboth.2
  next =>
    cases halive : s.alive with
    | false => rw [step_of_dead halive, Nat.add_zero]
    | true => exact (moves_step s e).stages_le halive h

end

/-! ### Runs -/

section

variable {s t : Pool} {i c job : Nat} {jobs : List Nat} {fates : List Fate} {system : System} {workers callers : Nat}
  {ts us vs : List Step}

theorem stage_le (worker : Worker) : stage worker ≤ 5 := by
  cases worker with
  | taken => exact Nat.le_refl _
  | cleared => exact Nat.le_succ _
  | evaluating => exact (by decide : 3 ≤ 5)
  | finishing => exact (by decide : 2 ≤ 5)
  | waiting => exact (by decide : 1 ≤ 5)
  | exited => exact Nat.zero_le _

theorem stages_bounded :
    s.stages ≤ 5 * s.workers.length + (s.callers.map fun caller => caller.abandoned.length).sum := by
  unfold stages
  split
  · exact Nat.add_le_add_right (sum_map_le fun worker _ => stage_le worker) _
  · exact Nat.zero_le _

/-- Where nothing is left to do, nobody holds the lock, the workers have left and
no shutdown has a job to finish. -/
theorem Draining.settled (h : Draining s) (hlocked : Locked s) (halive : s.alive = true)
    (hnone : ∀ e, s.apt e = false) :
    s.lock = none ∧ s.Joined ∧
      ∀ (c : Nat) (jobs : List Nat), s.callers[c]? = some (.sweeping jobs) → jobs = [] := by
  obtain ⟨hdown, -⟩ := h halive
  have hlock : s.lock = none := by
    cases hlock : s.lock with
    | none => rfl
    | some i =>
        obtain ⟨pending, cancelled, hworker⟩ := hlocked i hlock
        have hcommit := hnone (.commit i .listed 0 [])
        simp [apt, hworker] at hcommit
  refine ⟨hlock, fun worker hmem => ?_, fun c jobs hcaller => ?_⟩
  · obtain ⟨i, hworker⟩ := List.mem_iff_getElem?.mp hmem
    cases worker with
    | waiting =>
        have hdequeue := hnone (.dequeue i)
        simp [apt, hworker, hdown] at hdequeue
    | taken pending =>
        have htest := hnone (.test i)
        simp [apt, hworker] at htest
    | cleared pending =>
        have henter := hnone (.enter i)
        simp [apt, hworker, hlock] at henter
    | evaluating pending cancelled =>
        have hcommit := hnone (.commit i .listed 0 [])
        simp [apt, hworker] at hcommit
    | finishing job result =>
        have hreport := hnone (.report i)
        simp [apt, hworker] at hreport
    | exited => rfl
  · cases jobs with
    | nil => rfl
    | cons job jobs =>
        have hfinish := hnone (.finishAbandoned c)
        simp [apt, hcaller] at hfinish

/-- There a shutdown joins the workers. -/
theorem joinWorkers_cases (hlock : s.lock = none) (hjoined : s.Joined)
    (hcaller : s.callers[c]? = some (.sweeping [])) :
    (∃ disk, s.joinWorkers c fates = s.crashed disk) ∨
      ∃ system, s.joinWorkers c fates = { s.setCaller c .idle with system } := by
  unfold joinWorkers
  rw [hcaller]
  dsimp only
  split
  next hleft =>
    simp only [hlock, Option.isSome_none, Bool.false_or, Bool.not_eq_true', List.all_eq_false] at hleft
    obtain ⟨worker, hworker, hnot⟩ := hleft
    rw [hjoined worker hworker] at hnot
    exact absurd rfl hnot
  split
  · exact .inr ⟨s.system, rfl⟩
  split
  · exact .inr ⟨_, rfl⟩
  · exact .inl ⟨_, rfl⟩

theorem step_joinWorkers (halive : s.alive = true) : s.step (.joinWorkers c fates) = s.joinWorkers c fates := by
  unfold Pool.step
  rw [if_neg (by simp [halive])]

/-- It returns, unless it crashes. -/
theorem joinWorkers_returns (hlock : s.lock = none) (hjoined : s.Joined)
    (hcaller : s.callers[c]? = some (.sweeping [])) (halive : (s.joinWorkers c fates).alive = true) :
    (s.joinWorkers c fates).callers[c]? = some .idle := by
  obtain ⟨disk, hcrashed⟩ | ⟨system, hreturned⟩ := @joinWorkers_cases _ _ fates hlock hjoined hcaller
  · rw [hcrashed] at halive
    cases halive
  · rw [hreturned]
    exact List.getElem?_set_self (List.getElem?_eq_some_iff.mp hcaller).1

theorem draining_of_run (hrun : Run step (start system workers callers) ts s) :
    Locked s ∧ ∀ jobs, Caller.sweeping jobs ∈ s.callers → Draining s := by
  refine hrun.invariant (I := fun s => Locked s ∧ ∀ jobs, Caller.sweeping jobs ∈ s.callers → Draining s)
    ⟨fun i hi => ?_, fun jobs hjobs => ?_⟩ fun s e h => ⟨(moves_step s e).locked h.1, ?_⟩
  · cases hi
  · cases (List.mem_replicate.mp hjobs).2
  · cases halive : s.alive with
    | false =>
        rw [step_of_dead halive]
        exact h.2
    | true => exact (moves_step s e).swept_draining halive h.2

/-- The runtime takes no job any more, and its workers have left. -/
structure Closed (s : Pool) : Prop where
  draining : Draining s
  queue : s.queue = []
  joined : s.Joined

theorem Moves.closed {e : Event} {s' : Pool} (hmoves : Moves s e s') (halive : s.alive = true) (h : Closed s) :
    Closed s' := by
  have hdraining := hmoves.draining halive h.draining
  have hgone {i : Nat} {worker : Worker} (hworker : s.workers[i]? = some worker) : worker = .exited :=
    h.joined worker (List.mem_of_getElem? hworker)
  cases hmoves with
  | queued _ hup => exact absurd hup (by simp [(h.draining halive).1])
  | left hworker => cases hgone hworker
  | took hworker => cases hgone hworker
  | flagged hworker => cases hgone hworker
  | cleared hworker => cases hgone hworker
  | entered hworker => cases hgone hworker
  | committed hworker => cases hgone hworker
  | reported hworker => cases hgone hworker
  | swept => exact ⟨hdraining, rfl, h.joined⟩
  | same | crashed | called | submitting | refused | evaluated | cancelled | stopping | finished | returned =>
      exact ⟨hdraining, h.queue, h.joined⟩

theorem Closed.step (h : Closed s) (e : Event) : Closed (s.step e) := by
  cases halive : s.alive with
  | false => rwa [step_of_dead halive]
  | true => exact (moves_step s e).closed halive h

/-- A shutdown that returns has closed the runtime. -/
theorem closed_joinWorkers (h : Draining s) (hcaller : s.callers[c]? = some (.sweeping []))
    (hreturned : (s.step (.joinWorkers c fates)).callers[c]? = some .idle) :
    Closed (s.step (.joinWorkers c fates)) := by
  have halive : s.alive = true := by
    by_contra hdead
    rw [step_of_dead (Bool.not_eq_true _ ▸ hdead), hcaller] at hreturned
    cases hreturned
  have hdraining := h.step (.joinWorkers c fates)
  have hmoves := moves_step s (.joinWorkers c fates)
  generalize s.step (.joinWorkers c fates) = s' at hreturned hdraining hmoves
  cases hmoves with
  | same => cases hcaller.symm.trans hreturned
  | crashed => cases hcaller.symm.trans hreturned
  | returned _ hjoined => exact ⟨hdraining, (h halive).2, hjoined⟩

/-- **A shutdown that has returned has finished the jobs**: from then on every job
has exactly one result, apart from those that another shutdown has yet to finish,
and none is in the queue or at a worker. -/
theorem shutdown_finishes {x : Step} (hrun : Run step (start system workers callers) (us ++ x :: vs) s)
    (hcaller : x.before.callers[c]? = some (.sweeping [])) (hlabel : x.label = .joinWorkers c fates)
    (hreturned : (x.after step).callers[c]? = some .idle) :
    s.queue = [] ∧ s.Joined ∧ ∀ job < s.next,
      (s.jobs job).results.length + (s.callers.flatMap Caller.abandoned).count job = 1 := by
  obtain ⟨hbefore, hafter⟩ := hrun.at_step
  have hclosed : Closed (x.after step) := by
    unfold Transition.after at hreturned ⊢
    rw [hlabel] at hreturned ⊢
    exact closed_joinWorkers ((draining_of_run hbefore).2 [] (List.mem_of_getElem? hcaller)) hcaller hreturned
  obtain ⟨-, hqueue, hjoined⟩ := hafter.invariant hclosed fun s e h => Closed.step h e
  refine ⟨hqueue, hjoined, fun job hjob => ?_⟩
  have hworkers : s.workers.flatMap Worker.held = [] :=
    List.flatMap_eq_nil_iff.mpr fun worker hworker => by
      rw [hjoined worker hworker]
      rfl
  have hcount := owned_of_run hrun job
  rw [count_holders, hqueue, hworkers, if_pos hjob] at hcount
  simp only [List.map_nil, List.count_nil] at hcount
  omega

end

/-! ### A shutdown with a job in the queue -/

section

variable {system : System} {request : EvaluationRequest}

/-- The pool with a job in the queue, past the second section of a shutdown. -/
def retiring (system : System) (request : EvaluationRequest) : Pool :=
  ([.stopAccepting 0, .sweep 0] : List Event).foldl step (queueing system 0 request)

def retires : List Event := [.finishAbandoned 0, .dequeue 0]

/-- And with nothing left to do. -/
def retired (system : System) (request : EvaluationRequest) : Pool := retires.foldl step (retiring system request)

theorem run_retiring (h : Employs system.governor) :
    ∃ ts, Run step (start system 1 1) ts (retiring system request) :=
  ⟨_, (run_play_foldl (@foldl_submits system request 0 h)).append (run_play _ _)⟩

theorem governor_retired : (retired system request).system.governor =
    { system.governor with accepting := false, shuttingDown := true } := rfl

theorem workers_retired : (retired system request).workers = [.exited] := rfl

theorem callers_retired : (retired system request).callers = [.sweeping []] := rfl

theorem apt_retired (e : Event) : (retired system request).apt e = false := by
  cases e with
  | dequeue i | test i | enter i | commit i | report i =>
      rw [apt, workers_retired]
      cases i <;> rfl
  | finishAbandoned c =>
      rw [apt, callers_retired]
      cases c <;> rfl
  | submitOpen | submitQueue | submitInline | cancel | stopAccepting | sweep | joinWorkers | call => rfl

/-- The shutdown returns. -/
theorem step_retired (h : Governor.Savable system.governor) (hopen : system.governor.isOpen = true) :
    ∃ system', (retired system request).step (.joinWorkers 0 []) =
      { (retired system request).setCaller 0 .idle with system := system' } := by
  have hsavable : Governor.Savable (retired system request).system.governor := by
    rw [governor_retired]
    exact ⟨h.isOpen, h.summaries, h.fits⟩
  have hsaved := @Governor.completes_persistState _ (retired system request).system.disk hsavable
  have hcaller : (retired system request).callers[0]? = some (.sweeping []) := rfl
  have hjoined : (retired system request).Joined := fun worker hworker => List.mem_singleton.mp hworker
  rw [step_joinWorkers rfl]
  obtain ⟨disk, hcrashed⟩ | hreturned := @joinWorkers_cases _ _ [] rfl hjoined hcaller
  · have halive : ((retired system request).joinWorkers 0 []).alive = true := by
      unfold joinWorkers
      rw [hcaller]
      dsimp only
      split
      · rfl
      · rw [if_neg (by simp [governor_retired, hopen]), hsaved]
        rfl
    rw [hcrashed] at halive
    cases halive
  · exact hreturned

end

section

def samplePool : System := ⟨Governor.pooled samplePolicy, Governor.emptyDisk⟩

theorem step_sample : ∃ system, (retired samplePool Governor.sampleRequest).step (.joinWorkers 0 []) =
    { (retired samplePool Governor.sampleRequest).setCaller 0 .idle with system } := by
  have hroomy : Governor.Roomy 100 (Governor.pooled samplePolicy) := Governor.roomy_pooled Governor.sample_checks.1
  exact step_retired hroomy.savable rfl

/-- The job has its one result. -/
theorem shutdown_finishes_sample : ∃ ts s, Run step (start samplePool 1 1) ts s ∧ s.next = 1 ∧ s.queue = [] ∧
    s.Joined ∧ (s.jobs 0).results.length = 1 := by
  obtain ⟨ts, hrun⟩ := @run_retiring samplePool Governor.sampleRequest employs_pooled
  have hus : Run step _ _ (retired samplePool Governor.sampleRequest) := run_play _ retires
  have hall := (hrun.append hus).snoc (.joinWorkers 0 [])
  obtain ⟨system, hstep⟩ := step_sample
  rw [hstep] at hall
  obtain ⟨hqueue, hjoined, hjobs⟩ := @shutdown_finishes _ 0 [] _ _ _ _ []
    ⟨retired samplePool Governor.sampleRequest, .joinWorkers 0 []⟩ hall rfl rfl (by rw [Transition.after, hstep]; rfl)
  have hone := hjobs 0 Nat.zero_lt_one
  exact ⟨_, _, hall, rfl, hqueue, hjoined, hone⟩

end

end Pool

end Oversub
