import Oversub.Lib.Holdings
import Oversub.Runtime.Lifecycle

/-!
# Oversub.Runtime.Jobs

The jobs of a runtime between `submit`, its workers and `shutdown`.  Every
critical section of the source is one step: `mutex_` is held over a whole
evaluation, `queue_mutex_` and the mutex of a job for a moment only.  A job that
was created is in the queue, at a worker, on the list of a shutdown, or
finished, and never in two of these.
-/

namespace Oversub

open Crash Files Trace Holdings

/-! ## The flags under other calls -/

namespace Governor

section

variable {g g' x : Governor} {c : Command} {reply : Reply} {force : Bool}

theorem SameFlags.refl (g : Governor) : SameFlags g g := ⟨rfl, rfl, rfl⟩

theorem yields_persistState_flags (h : SameFlags g x) : Yields (x.persistState force) fun r => SameFlags g r.2 :=
  yields_persistState.mono fun _ hr =>
    have hlater := sameFlags_of_core hr
    ⟨hlater.isOpen.trans h.isOpen, hlater.accepting.trans h.accepting, hlater.shuttingDown.trans h.shuttingDown⟩

theorem sameFlags_observing {tick : UInt64} : SameFlags g (g.observing tick) := sameFlags_of_core core_observing

/-- A call that replies with no status keeps the flags. -/
theorem Effect.sameFlags (h : Effect g c reply g') (hreply : ∀ status, reply ≠ .status status) : SameFlags g g' := by
  cases h with
  | kept _ hcore => exact sameFlags_of_core hcore
  | opened => exact absurd rfl (hreply _)
  | stopped => exact absurd rfl (hreply _)
  | installed => exact absurd rfl (hreply _)
  | advanced => exact absurd rfl (hreply _)
  | registered => exact absurd rfl (hreply _)
  | adopted => exact absurd rfl (hreply _)
  | ingested _ h =>
      exact ⟨rest_congr (·.isOpen) (fun _ => rfl) h.rest, rest_congr (·.accepting) (fun _ => rfl) h.rest,
        rest_congr (·.shuttingDown) (fun _ => rfl) h.rest⟩
  | evaluated h =>
      cases h with
      | refused hcore => exact sameFlags_of_core hcore
      | recorded _ _ _ _ hcore =>
          have hlater := sameFlags_of_core hcore
          exact ⟨hlater.isOpen, hlater.accepting, hlater.shuttingDown⟩

theorem yields_installPolicy_flags {policy : OversubscriptionPolicy} {tick : UInt64} :
    Yields (g.installPolicy policy tick) fun r => SameFlags g r.2 := by
  unfold installPolicy
  dsimp only
  split
  · exact yields_pure (.refl g)
  split
  · exact yields_pure (.refl g)
  split
  · exact yields_pure sameFlags_observing
  split
  · exact yields_pure sameFlags_observing
  split
  · exact yields_pure sameFlags_observing
  · have hflags : SameFlags g (g.observing tick) := sameFlags_observing
    exact yields_persistState_flags ⟨hflags.isOpen, hflags.accepting, hflags.shuttingDown⟩

theorem yields_registerPublisher_flags {publisher : PublisherId} {incarnation : IncarnationId}
    {epoch : FabricEpoch} {tick : UInt64} :
    Yields (g.registerPublisher publisher incarnation epoch tick) fun r => SameFlags g r.2 := by
  have hflags : SameFlags g (g.observing tick) := sameFlags_observing
  unfold registerPublisher
  dsimp only
  split
  · exact yields_pure (.refl g)
  split
  · exact yields_pure (.refl g)
  split
  · exact yields_pure (.refl g)
  split
  · exact yields_pure (.refl g)
  split
  · split
    · split
      · exact yields_persistState_flags ⟨hflags.isOpen, hflags.accepting, hflags.shuttingDown⟩
      · exact yields_pure hflags
    · exact yields_pure hflags
  · split
    · exact yields_pure hflags
    · exact yields_persistState_flags ⟨hflags.isOpen, hflags.accepting, hflags.shuttingDown⟩

theorem SameFlags.adopted {x : Governor} {publisher : PublisherId}
    {f : PublisherRegistration → PublisherRegistration} (h : SameFlags g x) :
    SameFlags g ((x.modifyRegistration publisher f).flagPublisher publisher).marked :=
  ⟨h.isOpen, h.accepting, h.shuttingDown⟩

theorem yields_adoptIncarnation_flags {publisher : PublisherId} {incarnation : IncarnationId}
    {epoch : FabricEpoch} {tick : UInt64} :
    Yields (g.adoptIncarnation publisher incarnation epoch tick) fun r => SameFlags g r.2 := by
  have hflags : SameFlags g (g.observing tick) := sameFlags_observing
  unfold adoptIncarnation
  dsimp only
  split
  · exact yields_pure (.refl g)
  split
  · exact yields_pure (.refl g)
  split
  · exact yields_pure (.refl g)
  split
  · exact yields_pure (.refl g)
  split
  · exact yields_pure hflags
  · split
    · exact yields_pure hflags
    · exact yields_persistState_flags hflags.adopted

/-- A call that neither opens nor stops a runtime keeps the flags. -/
theorem yields_perform_flags (hopens : c.opens = false) (hstops : c.stops = false) :
    Yields (c.perform g) fun r => SameFlags g r.2 := by
  have hstatus {p : Storage (Status × Governor)} (hp : Yields p fun r => SameFlags g r.2) :
      Yields (replying .status p) fun r => SameFlags g r.2 := hp.bind fun _ h => yields_pure h
  have hother (hreply : Yields (c.perform g) fun r => ∀ status, r.1 ≠ .status status) :
      Yields (c.perform g) fun r => SameFlags g r.2 :=
    fun w => ((perform_effect c w).and (hreply w)).mono (fun _ _ h => h.1.sameFlags h.2) fun _ _ => trivial
  cases c with
  | openRuntime => cases hopens
  | close => cases hstops
  | shutdown => cases hstops
  | installPolicy => exact hstatus yields_installPolicy_flags
  | advanceEpoch next =>
      refine hstatus ?_
      unfold advanceEpoch
      split
      · exact yields_pure (.refl g)
      split
      · exact yields_pure (.refl g)
      · exact yields_persistState_flags ⟨rfl, rfl, rfl⟩
  | advanceTick delta =>
      refine hstatus ?_
      unfold advanceTick
      split
      · exact yields_pure (.refl g)
      split
      · exact yields_pure (.refl g)
      · exact yields_pure ⟨rfl, rfl, rfl⟩
  | save =>
      refine hstatus ?_
      unfold save
      split
      · exact yields_pure (.refl g)
      · exact yields_persistState_flags (.refl g)
  | registerPublisher => exact hstatus yields_registerPublisher_flags
  | adoptIncarnation => exact hstatus yields_adoptIncarnation_flags
  | fencePublisher publisher reason =>
      refine hstatus ?_
      unfold fencePublisher
      split
      · exact yields_pure (.refl g)
      split
      · exact yields_pure (.refl g)
      · exact yields_persistState_flags ⟨rfl, rfl, rfl⟩
  | ingestCapacity => exact hother (yields_true.bind fun _ _ => yields_pure fun _ => nofun)
  | ingestReservations => exact hother (yields_true.bind fun _ _ => yields_pure fun _ => nofun)
  | ingestAdmissions => exact hother (yields_true.bind fun _ _ => yields_pure fun _ => nofun)
  | evaluate => exact hother (yields_true.bind fun _ _ => yields_pure fun _ => nofun)
  | revalidate => exact hother (yields_pure fun _ => nofun)
  | crash => exact fun w => trivial

end

end Governor

/-! ## Jobs, workers and callers -/

/-- What `finish` was called with, every time, and the cancel flag. -/
structure EvaluationJob where
  cancelFlag : Bool := false
  results : List (Except Status Decision) := []

namespace EvaluationJob

/-- `done_`. -/
def done (job : EvaluationJob) : Bool := !job.results.isEmpty

def cancel (job : EvaluationJob) : EvaluationJob :=
  if job.done then job else { job with cancelFlag := true }

def finish (job : EvaluationJob) (result : Except Status Decision) : EvaluationJob :=
  { job with results := job.results ++ [result] }

end EvaluationJob

structure PendingJob where
  job : Nat
  request : EvaluationRequest

/-- Where a worker is in `worker_loop`: at the head of the loop, with a job it
took, past the first test of the flag, in the evaluation past its test of the
flag (and holding `mutex_`), or about to finish the job. -/
inductive Worker where
  | waiting
  | taken (pending : PendingJob)
  | cleared (pending : PendingJob)
  | evaluating (pending : PendingJob) (cancelled : Bool)
  | finishing (job : Nat) (result : Except Status Decision)
  | exited

/-- The job a worker has. -/
def Worker.held : Worker → List Nat
  | .waiting | .exited => []
  | .taken pending | .cleared pending | .evaluating pending _ => [pending.job]
  | .finishing job _ => [job]

/-- Where a thread is that calls the runtime: nowhere, in `submit` past its
first section, or in `shutdown` past its first or its second one. -/
inductive Caller where
  | idle
  | submitting (request : EvaluationRequest) (workerThreads : UInt32)
  | stopping
  | sweeping (abandoned : List Nat)

namespace Caller

/-- The jobs a shutdown has yet to finish. -/
def abandoned : Caller → List Nat
  | .sweeping jobs => jobs
  | _ => []

/-- A call of `shutdown` is under way. -/
def stops : Caller → Bool
  | .stopping | .sweeping _ => true
  | _ => false

end Caller

def cancelledBeforeStart : Status :=
  .failure .cancelled .decisionCancelled "job was cancelled before it started"

def cancelledByShutdown : Status :=
  .failure .cancelled .decisionCancelled "job was cancelled by runtime shutdown"

/-- The evaluation gets so far as to append its record, and appends it. -/
def Governor.recordsRuling (order : MapOrder) (wall : UInt64) (g : Governor) (request : EvaluationRequest)
    (cancelled : Bool) (w : World FileName) : Bool :=
  g.isOpen && request.domain.valid && !cancelled &&
    !((g.runtime request.domain).isNone && decide (kMaxDomainsState ≤ g.state.domains.length)) &&
    match ((g.ticking request).appendJournal (g.ruling order wall request).record w).1 with
    | some (status, _) => status.isOk
    | none => false

/-- The runtime with its jobs: `lock` is the worker that holds `mutex_`, and
`recorded` the jobs whose decisions were put into the journal. -/
structure Pool where
  system : System
  queue : List PendingJob := []
  jobs : Nat → EvaluationJob := fun _ => {}
  next : Nat := 0
  workers : List Worker
  callers : List Caller
  lock : Option Nat := none
  recorded : List Nat := []
  alive : Bool := true

namespace Pool

/-- A runtime that was opened, with so many threads around it. -/
def start (system : System) (workers callers : Nat) : Pool where
  system := system
  workers := .replicate workers .waiting
  callers := .replicate callers .idle

def setWorker (s : Pool) (i : Nat) (worker : Worker) : Pool := { s with workers := s.workers.set i worker }

def setCaller (s : Pool) (c : Nat) (caller : Caller) : Pool := { s with callers := s.callers.set c caller }

def setJob (s : Pool) (job : Nat) (f : EvaluationJob → EvaluationJob) : Pool :=
  { s with jobs := Function.update s.jobs job (f (s.jobs job)) }

@[simp] theorem jobs_setJob_self {s : Pool} {job : Nat} {f : EvaluationJob → EvaluationJob} :
    (s.setJob job f).jobs job = f (s.jobs job) := Function.update_self ..

/-- The process has crashed. -/
def crashed (s : Pool) (disk : Disk) : Pool := { s with system := .boot disk, alive := false }

/-! ## Critical sections -/

/-- `submit`, first section. -/
def submitOpen (s : Pool) (c : Nat) (request : EvaluationRequest) : Pool :=
  match s.callers[c]? with
  | some .idle =>
      let g := s.system.governor
      if s.lock.isSome || !g.isOpen || !g.accepting then s
      else s.setCaller c (.submitting request g.options.workerThreads)
  | _ => s

/-- `submit`, second section, where there are workers. -/
def submitQueue (s : Pool) (c : Nat) : Pool :=
  match s.callers[c]? with
  | some (.submitting request workerThreads) =>
      let g := s.system.governor
      if workerThreads = 0 then s
      else if g.shuttingDown || g.options.maxPendingJobs.toNat ≤ s.queue.length then s.setCaller c .idle
      else { s.setCaller c .idle with queue := s.queue ++ [⟨s.next, request⟩], next := s.next + 1 }
  | _ => s

/-- The rest of `submit` where there are no workers. -/
def submitInline (s : Pool) (c : Nat) (order : MapOrder) (wall : UInt64) (fates : List Fate) : Pool :=
  match s.callers[c]? with
  | some (.submitting request workerThreads) =>
      if workerThreads ≠ 0 || s.lock.isSome then s
      else
        let g := s.system.governor
        match g.evaluate order wall request ⟨s.system.disk, fates⟩ with
        | (some (result, governor), w) =>
            let appended := g.accepting && g.recordsRuling order wall request false ⟨s.system.disk, fates⟩
            { (s.setJob s.next fun job => job.finish result).setCaller c .idle with
              system := ⟨governor, w.disk⟩
              next := s.next + 1
              recorded := if appended then s.recorded ++ [s.next] else s.recorded }
        | (none, w) => s.crashed w.disk
  | _ => s

/-- A worker takes the next job, or leaves. -/
def dequeue (s : Pool) (i : Nat) : Pool :=
  match s.workers[i]?, s.queue with
  | some .waiting, [] => if s.system.governor.shuttingDown then s.setWorker i .exited else s
  | some .waiting, pending :: queue => { s.setWorker i (.taken pending) with queue }
  | _, _ => s

/-- Its first test of the flag. -/
def test (s : Pool) (i : Nat) : Pool :=
  match s.workers[i]? with
  | some (.taken pending) =>
      if (s.jobs pending.job).cancelFlag then
        s.setWorker i (.finishing pending.job (.error cancelledBeforeStart))
      else s.setWorker i (.cleared pending)
  | _ => s

/-- It locks `mutex_` and evaluates up to the test of the flag. -/
def enter (s : Pool) (i : Nat) : Pool :=
  match s.workers[i]? with
  | some (.cleared pending) =>
      if s.lock.isSome then s
      else { s.setWorker i (.evaluating pending (s.jobs pending.job).cancelFlag) with lock := some i }
  | _ => s

/-- The rest of the evaluation. -/
def commit (s : Pool) (i : Nat) (order : MapOrder) (wall : UInt64) (fates : List Fate) : Pool :=
  match s.workers[i]? with
  | some (.evaluating pending cancelled) =>
      let g := s.system.governor
      match g.evaluateLocked order wall pending.request cancelled ⟨s.system.disk, fates⟩ with
      | (some (result, governor), w) =>
          let appended := g.recordsRuling order wall pending.request cancelled ⟨s.system.disk, fates⟩
          { s.setWorker i (.finishing pending.job result) with
            system := ⟨governor, w.disk⟩
            lock := none
            recorded := if appended then s.recorded ++ [pending.job] else s.recorded }
      | (none, w) => s.crashed w.disk
  | _ => s

/-- It finishes the job. -/
def report (s : Pool) (i : Nat) : Pool :=
  match s.workers[i]? with
  | some (.finishing job result) => (s.setJob job fun j => j.finish result).setWorker i .waiting
  | _ => s

def cancelJob (s : Pool) (job : Nat) : Pool := if job < s.next then s.setJob job .cancel else s

/-- `shutdown`, first section. -/
def stopAccepting (s : Pool) (c : Nat) : Pool :=
  match s.callers[c]? with
  | some .idle =>
      if s.lock.isSome then s
      else
        let system := { s.system with governor := { s.system.governor with accepting := false } }
        { s.setCaller c .stopping with system }
  | _ => s

/-- `shutdown`, second section: the jobs of the queue are cancelled. -/
def sweep (s : Pool) (c : Nat) : Pool :=
  match s.callers[c]? with
  | some .stopping =>
      let system := { s.system with governor := { s.system.governor with shuttingDown := true } }
      let swept := s.queue.map (·.job)
      { s.setCaller c (.sweeping swept) with
        system
        jobs := fun job => if job ∈ swept then (s.jobs job).cancel else s.jobs job
        queue := [] }
  | _ => s

/-- `shutdown` finishes the next of them. -/
def finishAbandoned (s : Pool) (c : Nat) : Pool :=
  match s.callers[c]? with
  | some (.sweeping (job :: jobs)) =>
      (s.setJob job fun j => j.finish (.error cancelledByShutdown)).setCaller c (.sweeping jobs)
  | _ => s

/-- The workers have left. -/
def Joined (s : Pool) : Prop := ∀ worker ∈ s.workers, worker = .exited

/-- `shutdown` returns: it has joined the workers, and saves the state. -/
def joinWorkers (s : Pool) (c : Nat) (fates : List Fate) : Pool :=
  match s.callers[c]? with
  | some (.sweeping []) =>
      if s.lock.isSome || !s.workers.all fun worker => worker matches .exited then s
      else
        let g := s.system.governor
        if !g.isOpen then s.setCaller c .idle
        else
          match g.persistState true ⟨s.system.disk, fates⟩ with
          | (some (_, governor), w) => { s.setCaller c .idle with system := ⟨governor, w.disk⟩ }
          | (none, w) => s.crashed w.disk
  | _ => s

/-- Another call, under `mutex_`. -/
def call (s : Pool) (c : System.Call) : Pool :=
  if s.lock.isSome || c.command.opens || c.command.stops then s
  else
    match s.system.perform c with
    | (some _, system) => { s with system }
    | (none, system) => s.crashed system.disk

inductive Event where
  | submitOpen (c : Nat) (request : EvaluationRequest)
  | submitQueue (c : Nat)
  | submitInline (c : Nat) (order : MapOrder) (wall : UInt64) (fates : List Fate)
  | dequeue (i : Nat)
  | test (i : Nat)
  | enter (i : Nat)
  | commit (i : Nat) (order : MapOrder) (wall : UInt64) (fates : List Fate)
  | report (i : Nat)
  | cancel (job : Nat)
  | stopAccepting (c : Nat)
  | sweep (c : Nat)
  | finishAbandoned (c : Nat)
  | joinWorkers (c : Nat) (fates : List Fate)
  | call (c : System.Call)

/-- Any thread takes a step; nothing happens after a crash. -/
def step (s : Pool) (e : Event) : Pool :=
  if !s.alive then s
  else
    match e with
    | .submitOpen c request => s.submitOpen c request
    | .submitQueue c => s.submitQueue c
    | .submitInline c order wall fates => s.submitInline c order wall fates
    | .dequeue i => s.dequeue i
    | .test i => s.test i
    | .enter i => s.enter i
    | .commit i order wall fates => s.commit i order wall fates
    | .report i => s.report i
    | .cancel job => s.cancelJob job
    | .stopAccepting c => s.stopAccepting c
    | .sweep c => s.sweep c
    | .finishAbandoned c => s.finishAbandoned c
    | .joinWorkers c fates => s.joinWorkers c fates
    | .call c => s.call c

/-- A step of a pool. -/
abbrev Step : Type := Transition Pool Event

/-! ## What a step does -/

/-- The steps a pool may take. -/
inductive Moves (s : Pool) : Event → Pool → Prop
  | same {e : Event} : Moves s e s
  | crashed {e : Event} {disk : Disk} : Moves s e (s.crashed disk)
  | called {c : System.Call} {system : System}
      (hflags : Governor.SameFlags s.system.governor system.governor) : Moves s (.call c) { s with system }
  | submitting {c : Nat} {request : EvaluationRequest} {n : UInt32} (hcaller : s.callers[c]? = some .idle) :
      Moves s (.submitOpen c request) (s.setCaller c (.submitting request n))
  | refused {c : Nat} {request : EvaluationRequest} {n : UInt32}
      (hcaller : s.callers[c]? = some (.submitting request n)) : Moves s (.submitQueue c) (s.setCaller c .idle)
  | queued {c : Nat} {request : EvaluationRequest} {n : UInt32}
      (hcaller : s.callers[c]? = some (.submitting request n))
      (hdown : s.system.governor.shuttingDown = false) :
      Moves s (.submitQueue c) { s.setCaller c .idle with
        queue := s.queue ++ [⟨s.next, request⟩], next := s.next + 1 }
  | evaluated {c : Nat} {request : EvaluationRequest} {n : UInt32} {order : MapOrder} {wall : UInt64}
      {fates : List Fate} {result : Except Status Decision} {governor : Governor} {w : World FileName}
      (hcaller : s.callers[c]? = some (.submitting request n))
      (hrun : s.system.governor.evaluate order wall request ⟨s.system.disk, fates⟩ =
        (some (result, governor), w)) :
      Moves s (.submitInline c order wall fates) { (s.setJob s.next fun job => job.finish result).setCaller c .idle with
        system := ⟨governor, w.disk⟩
        next := s.next + 1
        recorded := if (s.system.governor.accepting &&
          s.system.governor.recordsRuling order wall request false ⟨s.system.disk, fates⟩) = true then
            s.recorded ++ [s.next] else s.recorded }
  | left {i : Nat} (hworker : s.workers[i]? = some .waiting) (hqueue : s.queue = [])
      (hdown : s.system.governor.shuttingDown = true) : Moves s (.dequeue i) (s.setWorker i .exited)
  | took {i : Nat} {pending : PendingJob} {queue : List PendingJob} (hworker : s.workers[i]? = some .waiting)
      (hqueue : s.queue = pending :: queue) :
      Moves s (.dequeue i) { s.setWorker i (.taken pending) with queue }
  | flagged {i : Nat} {pending : PendingJob} (hworker : s.workers[i]? = some (.taken pending))
      (hflag : (s.jobs pending.job).cancelFlag = true) :
      Moves s (.test i) (s.setWorker i (.finishing pending.job (.error cancelledBeforeStart)))
  | cleared {i : Nat} {pending : PendingJob} (hworker : s.workers[i]? = some (.taken pending))
      (hflag : (s.jobs pending.job).cancelFlag = false) :
      Moves s (.test i) (s.setWorker i (.cleared pending))
  | entered {i : Nat} {pending : PendingJob} (hworker : s.workers[i]? = some (.cleared pending)) :
      Moves s (.enter i) { s.setWorker i (.evaluating pending (s.jobs pending.job).cancelFlag) with lock := some i }
  | committed {i : Nat} {pending : PendingJob} {cancelled : Bool} {order : MapOrder} {wall : UInt64}
      {fates : List Fate} {result : Except Status Decision} {governor : Governor} {w : World FileName}
      (hworker : s.workers[i]? = some (.evaluating pending cancelled))
      (hrun : s.system.governor.evaluateLocked order wall pending.request cancelled ⟨s.system.disk, fates⟩ =
        (some (result, governor), w)) :
      Moves s (.commit i order wall fates) { s.setWorker i (.finishing pending.job result) with
        system := ⟨governor, w.disk⟩
        lock := none
        recorded := if s.system.governor.recordsRuling order wall pending.request cancelled
          ⟨s.system.disk, fates⟩ = true then s.recorded ++ [pending.job] else s.recorded }
  | reported {i job : Nat} {result : Except Status Decision}
      (hworker : s.workers[i]? = some (.finishing job result)) :
      Moves s (.report i) ((s.setJob job fun j => j.finish result).setWorker i .waiting)
  | cancelled {job : Nat} (hjob : job < s.next) : Moves s (.cancel job) (s.setJob job .cancel)
  | stopping {c : Nat} (hcaller : s.callers[c]? = some .idle) :
      Moves s (.stopAccepting c) { s.setCaller c .stopping with
        system := { s.system with governor := { s.system.governor with accepting := false } } }
  | swept {c : Nat} (hcaller : s.callers[c]? = some .stopping) :
      Moves s (.sweep c) { s.setCaller c (.sweeping (s.queue.map (·.job))) with
        system := { s.system with governor := { s.system.governor with shuttingDown := true } }
        jobs := fun job => if job ∈ s.queue.map (·.job) then (s.jobs job).cancel else s.jobs job
        queue := [] }
  | finished {c job : Nat} {jobs : List Nat} (hcaller : s.callers[c]? = some (.sweeping (job :: jobs))) :
      Moves s (.finishAbandoned c)
        ((s.setJob job fun j => j.finish (.error cancelledByShutdown)).setCaller c (.sweeping jobs))
  | returned {c : Nat} {fates : List Fate} {system : System} (hcaller : s.callers[c]? = some (.sweeping []))
      (hjoined : s.Joined) (hflags : Governor.SameFlags s.system.governor system.governor) :
      Moves s (.joinWorkers c fates) { s.setCaller c .idle with system }

theorem moves_step (s : Pool) (e : Event) : Moves s e (s.step e) := by
  unfold step
  split
  · exact .same
  cases e with
  | submitOpen c request =>
      dsimp only [submitOpen]
      split
      · split
        · exact .same
        · exact .submitting ‹_›
      · exact .same
  | submitQueue c =>
      dsimp only [submitQueue]
      split
      next hcaller =>
        split
        · exact .same
        split
        · exact .refused hcaller
        next hroom =>
          simp only [Bool.or_eq_true, decide_eq_true_eq, not_or, Bool.not_eq_true] at hroom
          exact .queued hcaller hroom.1
      · exact .same
  | submitInline c order wall fates =>
      dsimp only [submitInline]
      split
      next hcaller =>
        split
        · exact .same
        split
        next hrun => exact .evaluated hcaller hrun
        next => exact .crashed
      · exact .same
  | dequeue i =>
      dsimp only [dequeue]
      split
      next hworker hqueue =>
        split
        next hdown => exact .left hworker hqueue hdown
        · exact .same
      next hworker hqueue => exact .took hworker hqueue
      · exact .same
  | test i =>
      dsimp only [test]
      split
      next hworker =>
        split
        next hflag => exact .flagged hworker hflag
        next hflag => exact .cleared hworker (by simpa using hflag)
      · exact .same
  | enter i =>
      dsimp only [enter]
      split
      next hworker =>
        split
        · exact .same
        · exact .entered hworker
      · exact .same
  | commit i order wall fates =>
      dsimp only [commit]
      split
      next hworker =>
        split
        next hrun => exact .committed hworker hrun
        next => exact .crashed
      · exact .same
  | report i =>
      dsimp only [report]
      split
      next hworker => exact .reported hworker
      · exact .same
  | cancel job =>
      dsimp only [cancelJob]
      split
      next hjob => exact .cancelled hjob
      · exact .same
  | stopAccepting c =>
      dsimp only [stopAccepting]
      split
      next hcaller =>
        split
        · exact .same
        · exact .stopping hcaller
      · exact .same
  | sweep c =>
      dsimp only [sweep]
      split
      next hcaller => exact .swept hcaller
      · exact .same
  | finishAbandoned c =>
      dsimp only [finishAbandoned]
      split
      next hcaller => exact .finished hcaller
      · exact .same
  | joinWorkers c fates =>
      dsimp only [joinWorkers]
      split
      next hcaller =>
        split
        · exact .same
        next hleft =>
        simp only [Bool.or_eq_true, not_or, Bool.not_eq_true', Bool.not_eq_false, List.all_eq_true] at hleft
        have hjoined : s.Joined := fun worker hworker => by
          have hexited := hleft.2 worker hworker
          split at hexited
          · rfl
          · cases hexited
        split
        · exact .returned hcaller hjoined (.refl _)
        split
        next hrun => exact .returned hcaller hjoined ((Governor.yields_persistState_flags (.refl _) _).returned hrun)
        next => exact .crashed
      · exact .same
  | call c =>
      dsimp only [call]
      split
      · exact .same
      next hcommand =>
        simp only [Bool.or_eq_true, not_or, Bool.not_eq_true] at hcommand
        split
        next reply system hperform =>
          have hreply : (s.system.perform c).1 = some reply := congrArg Prod.fst hperform
          obtain ⟨governor, w, hrun, hstep⟩ := System.perform_eq_some hreply
          have hsystem : system = ⟨governor, w.disk⟩ := (congrArg Prod.snd hperform).symm.trans hstep
          have hflags := (Governor.yields_perform_flags hcommand.1.2 hcommand.2 _).returned hrun
          rw [hsystem]
          exact .called hflags
        next => exact .crashed

/-! ## Who has a job -/

/-- The jobs in the queue, at workers, and on the lists of shutdowns. -/
def holders (s : Pool) : List Nat :=
  s.queue.map (·.job) ++ s.workers.flatMap Worker.held ++ s.callers.flatMap Caller.abandoned

/-- A job that was created is held once, or finished once, and no other is. -/
def Owned (s : Pool) : Prop :=
  ∀ job, s.holders.count job + (s.jobs job).results.length = if job < s.next then 1 else 0

section

variable {s s' : Pool} {i c job : Nat} {worker worker' : Worker} {caller caller' : Caller}

theorem count_holders : s.holders.count job = (s.queue.map (·.job)).count job +
    (s.workers.flatMap Worker.held).count job + (s.callers.flatMap Caller.abandoned).count job := by
  rw [holders, List.count_append, List.count_append]

theorem owned_start {system : System} {workers callers : Nat} : Owned (start system workers callers) := by
  intro job
  have hworkers : (List.replicate workers Worker.waiting).flatMap Worker.held = [] := by
    simp [List.flatMap_eq_nil_iff, List.mem_replicate, Worker.held]
  have hcallers : (List.replicate callers Caller.idle).flatMap Caller.abandoned = [] := by
    simp [List.flatMap_eq_nil_iff, List.mem_replicate, Caller.abandoned]
  rw [holders]
  simp [start, hworkers, hcallers]

/-- A step that finishes no job and creates none. -/
theorem Owned.congr (h : Owned s) (hcount : ∀ job, s'.holders.count job = s.holders.count job)
    (hjobs : ∀ job, (s'.jobs job).results = (s.jobs job).results) (hnext : s'.next = s.next) : Owned s' := by
  intro job
  rw [hcount, hjobs, hnext]
  exact h job

/-- A step that finishes a job. -/
theorem Owned.finished {result : Except Status Decision} (h : Owned s)
    (hjobs : s'.jobs = Function.update s.jobs job ((s.jobs job).finish result))
    (hcount : ∀ k, s'.holders.count k + [job].count k = s.holders.count k) (hnext : s'.next = s.next) :
    Owned s' := by
  intro k
  have hk := h k
  have hcountk := hcount k
  rw [hjobs, hnext]
  by_cases hjob : k = job
  · subst hjob
    simp only [Function.update_self, EvaluationJob.finish, List.length_append, List.length_singleton,
      List.count_singleton_self] at hcountk ⊢
    omega
  · simp only [Function.update_of_ne hjob, List.count_singleton, beq_iff_eq, Ne.symm hjob, if_false] at hcountk ⊢
    omega

/-- A step that creates a job. -/
theorem Owned.created (h : Owned s)
    (hcount : ∀ k, s'.holders.count k + (s'.jobs k).results.length =
      s.holders.count k + (s.jobs k).results.length + [s.next].count k)
    (hnext : s'.next = s.next + 1) : Owned s' := by
  intro k
  have hk := h k
  rw [hcount k, hk, hnext, List.count_singleton]
  by_cases hlast : s.next = k
  · subst hlast
    simp
  · simp only [beq_iff_eq, hlast, if_false, Nat.add_zero]
    split <;> split <;> omega

/-- A worker that keeps what it has. -/
theorem count_setWorker (h : s.workers[i]? = some worker) (k : Nat) :
    ((s.workers.set i worker').flatMap Worker.held).count k + worker.held.count k =
      (s.workers.flatMap Worker.held).count k + worker'.held.count k := count_flatMap_set h k

theorem count_setCaller (h : s.callers[c]? = some caller) (k : Nat) :
    ((s.callers.set c caller').flatMap Caller.abandoned).count k + caller.abandoned.count k =
      (s.callers.flatMap Caller.abandoned).count k + caller'.abandoned.count k := count_flatMap_set h k

/-- A worker that keeps what it has. -/
theorem Owned.setWorker (h : Owned s) (hworker : s.workers[i]? = some worker)
    (hworkers : s'.workers = s.workers.set i worker') (hheld : worker'.held = worker.held)
    (hqueue : s'.queue = s.queue)
    (hcallers : s'.callers = s.callers) (hjobs : s'.jobs = s.jobs) (hnext : s'.next = s.next) : Owned s' := by
  refine h.congr (fun k => ?_) (fun k => by rw [hjobs]) hnext
  have hset := @count_setWorker s i worker worker' hworker k
  rw [hheld] at hset
  rw [count_holders, count_holders, hqueue, hworkers, hcallers]
  omega

/-- A caller that keeps what it has. -/
theorem Owned.setCaller (h : Owned s) (hcaller : s.callers[c]? = some caller)
    (hcallers : s'.callers = s.callers.set c caller') (habandoned : caller'.abandoned = caller.abandoned)
    (hqueue : s'.queue = s.queue) (hworkers : s'.workers = s.workers) (hjobs : s'.jobs = s.jobs)
    (hnext : s'.next = s.next) : Owned s' := by
  refine h.congr (fun k => ?_) (fun k => by rw [hjobs]) hnext
  have hset := @count_setCaller s c caller caller' hcaller k
  rw [habandoned] at hset
  rw [count_holders, count_holders, hqueue, hworkers, hcallers]
  omega

/-- A change of the runtime alone. -/
theorem Owned.system (h : Owned s) (hqueue : s'.queue = s.queue) (hworkers : s'.workers = s.workers)
    (hcallers : s'.callers = s.callers) (hjobs : s'.jobs = s.jobs) (hnext : s'.next = s.next) : Owned s' := by
  refine h.congr (fun k => ?_) (fun k => by rw [hjobs]) hnext
  rw [count_holders, count_holders, hqueue, hworkers, hcallers]

theorem results_cancel {job : EvaluationJob} : job.cancel.results = job.results := by
  unfold EvaluationJob.cancel
  split <;> rfl

/-- No job has the next number yet. -/
theorem Owned.results_next (h : Owned s) : (s.jobs s.next).results = [] := by
  have hnext := h s.next
  rw [if_neg (Nat.lt_irrefl _)] at hnext
  exact List.length_eq_zero_iff.mp (by omega)

/-- A job that a worker has was created. -/
theorem Owned.held_lt (h : Owned s) (hworker : s.workers[i]? = some worker) (hjob : job ∈ worker.held) :
    job < s.next := by
  have hmem : job ∈ s.workers.flatMap Worker.held :=
    List.mem_flatMap.mpr ⟨worker, List.mem_of_getElem? hworker, hjob⟩
  have hpos := List.count_pos_iff.mpr hmem
  have hcount := h job
  rw [count_holders] at hcount
  by_contra hlt
  rw [if_neg hlt] at hcount
  omega

/-- **Every step** keeps the jobs accounted for. -/
theorem Moves.owned {e : Event} (hmoves : Moves s e s') (h : Owned s) : Owned s' := by
  cases hmoves with
  | same => exact h
  | crashed => exact h.system rfl rfl rfl rfl rfl
  | called => exact h.system rfl rfl rfl rfl rfl
  | submitting hcaller => exact h.setCaller hcaller rfl rfl rfl rfl rfl rfl
  | refused hcaller => exact h.setCaller hcaller rfl rfl rfl rfl rfl rfl
  | @queued c request n hcaller =>
      refine h.created (fun k => ?_) rfl
      have hset := @count_setCaller s c _ .idle hcaller k
      rw [count_holders, count_holders]
      simp only [Pool.setCaller, List.map_append, List.map_cons, List.map_nil, List.count_append, Caller.abandoned,
        List.count_nil] at hset ⊢
      omega
  | @evaluated c request n order wall fates result governor w hcaller =>
      refine h.created (fun k => ?_) rfl
      have hset := @count_setCaller s c _ .idle hcaller k
      have hnone := h.results_next
      rw [count_holders, count_holders]
      by_cases hk : k = s.next
      · subst hk
        simp only [Pool.setCaller, setJob, Function.update_self, EvaluationJob.finish, hnone, List.nil_append,
          List.length_singleton, List.length_nil, List.count_singleton_self, Caller.abandoned,
          List.count_nil] at hset ⊢
        omega
      · simp only [Pool.setCaller, setJob, Function.update_of_ne hk, List.count_singleton, beq_iff_eq, Ne.symm hk,
          if_false, Caller.abandoned, List.count_nil] at hset ⊢
        omega
  | left hworker => exact h.setWorker hworker rfl rfl rfl rfl rfl rfl
  | @took i pending queue hworker hqueue =>
      refine h.congr (fun k => ?_) (fun _ => rfl) rfl
      have hset := @count_setWorker s i _ (.taken pending) hworker k
      rw [count_holders, count_holders, hqueue]
      simp only [Pool.setWorker, Worker.held, List.count_nil, List.map_cons, List.count_cons] at hset ⊢
      omega
  | flagged hworker => exact h.setWorker hworker rfl rfl rfl rfl rfl rfl
  | cleared hworker => exact h.setWorker hworker rfl rfl rfl rfl rfl rfl
  | entered hworker => exact h.setWorker hworker rfl rfl rfl rfl rfl rfl
  | committed hworker => exact h.setWorker hworker rfl rfl rfl rfl rfl rfl
  | @reported i job result hworker =>
      refine h.finished rfl (fun k => ?_) rfl
      have hset := @count_setWorker s i _ .waiting hworker k
      rw [count_holders, count_holders]
      simp only [Pool.setWorker, setJob, Worker.held, List.count_nil] at hset ⊢
      omega
  | @cancelled job =>
      refine h.congr (fun _ => rfl) (fun k => ?_) rfl
      by_cases hk : k = job
      · subst hk
        simp only [setJob, Function.update_self, results_cancel]
      · simp only [setJob, Function.update_of_ne hk]
  | stopping hcaller => exact h.setCaller hcaller rfl rfl rfl rfl rfl rfl
  | @swept c hcaller =>
      refine h.congr (fun k => ?_) (fun k => ?_) rfl
      · have hset := @count_setCaller s c _ (.sweeping (s.queue.map (·.job))) hcaller k
        rw [count_holders, count_holders]
        simp only [Pool.setCaller, Caller.abandoned, List.count_nil, List.map_nil] at hset ⊢
        omega
      · dsimp only
        split
        · exact results_cancel
        · rfl
  | @finished c job jobs hcaller =>
      refine h.finished rfl (fun k => ?_) rfl
      have hset := @count_setCaller s c _ (.sweeping jobs) hcaller k
      rw [count_holders, count_holders]
      simp only [Pool.setCaller, setJob, Caller.abandoned, List.count_cons, List.count_nil] at hset ⊢
      omega
  | returned hcaller => exact h.setCaller hcaller rfl rfl rfl rfl rfl rfl

theorem owned_of_run {system : System} {workers callers : Nat} {ts : List Step}
    (hrun : Run step (start system workers callers) ts s) : Owned s :=
  hrun.invariant owned_start fun s e h => (moves_step s e).owned h

end

end Pool

/-! ## A runtime with one worker -/

namespace Governor

def pooledOptions : GovernorOptions := { sampleOptions with workerThreads := 1 }

def pooled (policy : OversubscriptionPolicy) : Governor :=
  (({} : Governor).initialized pooledOptions emptyDisk policy).live

def openPooled (policy : OversubscriptionPolicy) : System.Call := ⟨.openRuntime pooledOptions policy, []⟩

section

variable {policy : OversubscriptionPolicy}

theorem roomy_pooled (hlength : (writePolicy (initialPolicy policy)).length ≤ 4096) :
    Roomy 100 (pooled policy) := by
  refine roomy_live rfl nofun ?_ (by decide : 0 + 100 ≤ kMaxPublishers)
    (by decide : 0 + 100 ≤ kMaxDomainsState)
    (by decide : 0 + 510 * 100 ≤ pooledOptions.maxJournalBytes.toNat)
    (by decide : 0 + 100 ≤ pooledOptions.maxJournalRecords.toNat)
    (by decide : 100 < pooledOptions.saveStateEveryDecisions.toNat)
  show 124 + (writePolicy (initialPolicy policy)).length + 0 + 0 + 0 + 0 + 600 * 100 ≤
    32 * 1024 * 1024
  omega

theorem step_openPooled (hp : (validatePolicy (initialPolicy policy)).isOk = true)
    (hlength : (writePolicy (initialPolicy policy)).length ≤ 4096) :
    ∃ disk, (System.boot emptyDisk).step (openPooled policy) = ⟨pooled policy, disk⟩ := by
  have hsavable := @savable_initialized policy hlength
  have hs : Savable (({} : Governor).initialized pooledOptions emptyDisk policy) :=
    ⟨hsavable.isOpen, hsavable.summaries, hsavable.fits⟩
  have haccepts : Accepts pooledOptions :=
    ⟨by decide, by decide, by decide, by decide, by decide, by decide, by decide, by decide⟩
  exact ⟨_, System.step_of_perform (System.perform_of_completes (completes_replying
    (completes_open_fresh rfl haccepts rfl hp hs)))⟩

/-- The sample runtime, opened with a worker. -/
theorem sample_pooled : ∃ disk, SessionRun emptyDisk [⟨System.boot emptyDisk, openPooled samplePolicy⟩]
    ⟨pooled samplePolicy, disk⟩ := by
  obtain ⟨disk, hopened⟩ := step_openPooled initialPolicy_sample sample_checks.1
  have hrun : SessionRun emptyDisk _ _ := Run.nil.snoc (openPooled samplePolicy)
  rw [hopened] at hrun
  exact ⟨disk, hrun⟩

end

end Governor

end Oversub
