import Oversub.Runtime.Serving

/-!
# Oversub.Runtime.Stopping

How a coordinator comes to rest.  A handler that has been told to stop finishes
the frame it has got, or the HELLO, and no more: what its phase still owes the
governor goes down with each call, whatever its peer has queued, and every
step that it can make brings it nearer to its end.
-/

namespace Oversub

open Wire Reader Crash Files Trace

namespace Coordinator

/-! ## What a handler still owes -/

/-- The calls that a handler makes at most before it tests the flag again. -/
def Phase.due : Phase → Nat
  | .fresh => 2
  | .greeting _ adopt | .registering _ adopt _ => if adopt then 2 else 1
  | .receiving _ => 1
  | .welcoming _ _ _ | .serving _ | .closed => 0

/-- The calls that a step of a handler makes. -/
def handlerCalls (y : Step) : Nat :=
  match y.label with
  | .handle _ _ _ => (y.before.calls y.label).length
  | _ => 0

def due (s : Coordinator) : Nat := (s.handlers.map (·.phase.due)).sum

section

variable {s : Coordinator} {e : Event} {fates : List Fate} {id : Nat} {a : Handler.Action} {h : Handler}
  {turn : Turn} {system : System}

theorem due_le {phase : Phase} : phase.due ≤ 2 := by
  unfold Phase.due
  split
  · exact Nat.le_refl _
  · split <;> omega
  · split <;> omega
  · exact Nat.le_succ _
  · exact Nat.zero_le _
  · exact Nat.zero_le _
  · exact Nat.zero_le _

theorem due_quiet {g : Governor} : (h.quiet true g a).handler.phase.due ≤ h.phase.due := by
  unfold Handler.quiet
  split
  next hphase =>
    rw [hphase]
    unfold Handler.greeted
    split
    · exact Nat.zero_le _
    · show (if _ then 2 else 1) ≤ 2
      split <;> omega
  · exact Nat.zero_le _
  · exact Nat.zero_le _
  next hphase =>
    rw [hphase]
    exact Nat.le_refl _
  next hphase =>
    rw [hphase]
    unfold Handler.welcome
    dsimp only
    split
    · exact Nat.le_refl _
    · exact Nat.le_refl _
    · exact Nat.le_refl _
    · unfold Handler.goOn
      dsimp only
      split <;> exact Nat.le_refl _
  · exact Nat.zero_le _
  · exact Nat.le_refl _
  · exact Nat.le_refl _

/-- After a reply the flag comes next. -/
theorem due_answered {frames : UInt64} {reply : Frame} {sends : Bool} :
    (h.answered frames reply sends).handler.phase.due = 0 := by
  unfold Handler.answered
  split
  · rfl
  split
  · rfl
  · unfold Handler.goOn
    dsimp only
    split <;> rfl

/-- Only an adoption is followed by a registration. -/
theorem due_registered {hello : HelloRequest} {adopt : Bool} {status : Status} :
    (h.registered hello adopt status).handler.phase.due + 1 ≤ if adopt then 2 else 1 := by
  unfold Handler.registered
  cases adopt with
  | true =>
      split
      · exact Nat.le_refl _
      split
      · exact Nat.le_succ _
      · exact Nat.le_succ _
  | false =>
      split
      next hadopted => simp at hadopted
      split
      · exact Nat.le_refl _
      · exact Nat.le_refl _

/-- A registration is answered by a status. -/
theorem registration_status {g : Governor} {hello : HelloRequest} {epoch : FabricEpoch} {adopt : Bool} :
    Yields ((registration hello epoch adopt).perform g) fun r => ∃ status, r.1 = .status status := by
  cases adopt with
  | true =>
      unfold registration Command.perform replying
      exact yields_true.bind fun r _ => yields_pure ⟨r.1, rfl⟩
  | false =>
      unfold registration Command.perform replying
      exact yields_true.bind fun r _ => yields_pure ⟨r.1, rfl⟩

/-- What a handler owes pays for its step, calls and all. -/
theorem Turned.due (h' : Turned s h a fates turn system) (hstop : s.stopRequested = true)
    (hfind : s.find id = some h) :
    turn.handler.phase.due + handlerCalls ⟨s, .handle id a fates⟩ ≤ h.phase.due := by
  have hcalls : handlerCalls ⟨s, .handle id a fates⟩ = (s.calls (.handle id a fates)).length := rfl
  rw [hcalls, calls, hfind, Option.bind_some]
  cases h' with
  | quiet hasks =>
      rw [hasks, hstop]
      exact due_quiet
  | answered hasks =>
      rename_i reply
      rw [hasks]
      generalize hr : Except.error reply = r at hasks
      cases Handler.asks_cases hasks with
      | serving hphase =>
          rw [← hr]
          simp only [Handler.replied, hphase, due_answered]
          exact Nat.zero_le _
      | registering => cases hr
  | called hasks hreply =>
      rename_i c reply
      rw [hasks]
      generalize hr : Except.ok c = r at hasks
      cases Handler.asks_cases hasks with
      | serving hphase =>
          rw [← hr]
          simp only [Handler.replied, hphase, due_answered]
          exact Nat.le_refl _
      | registering hphase =>
          obtain rfl := Except.ok.inj hr
          obtain ⟨status, rfl⟩ := System.yielded registration_status hreply
          simp only [Handler.replied, hphase]
          exact due_registered

/-- A handler that calls owes the call. -/
theorem handlerCalls_le (hfind : s.find id = some h) : handlerCalls ⟨s, .handle id a fates⟩ ≤ h.phase.due := by
  have hcalls : handlerCalls ⟨s, .handle id a fates⟩ = (s.calls (.handle id a fates)).length := rfl
  rw [hcalls, calls, hfind, Option.bind_some]
  cases hasks : h.asks s.options a with
  | none => exact Nat.zero_le _
  | some r =>
      have hone : 1 ≤ h.phase.due := by
        cases Handler.asks_cases hasks with
        | serving hphase =>
            rw [hphase]
            exact Nat.le_refl _
        | registering hphase =>
            rw [hphase]
            show 1 ≤ if _ then 2 else 1
            split <;> omega
      cases r with
      | error => exact Nat.zero_le _
      | ok => exact hone

/-! ## How far a handler is from its end -/

def Phase.stage : Phase → Nat
  | .fresh => 11
  | .greeting _ adopt => if adopt then 10 else 8
  | .registering _ adopt _ => if adopt then 9 else 7
  | .welcoming _ .epoch _ => 6
  | .welcoming _ .policyGeneration _ => 5
  | .welcoming _ .evidenceGenerations _ => 4
  | .welcoming _ .publisherSequence _ => 3
  | .receiving _ => 3
  | .serving _ => 2
  | .closed => 1

/-- A handler whose thread has ended is at its end. -/
def Handler.stage (h : Handler) : Nat := if h.finished then 0 else h.phase.stage

/-- What a handler does next, where it is. -/
def Handler.apt (h : Handler) (a : Action) : Bool :=
  match h.phase, a with
  | .fresh, .receive _ _ _ _ | .fresh, .hangUp | .receiving _, .receive _ _ _ _ | .receiving _, .hangUp
  | .greeting _ _, .proceed _ | .registering _ _ _, .proceed _ | .welcoming _ _ _, .proceed _
  | .serving _, .proceed _ => true
  | .closed, .finish => !h.finished
  | _, _ => false

/-- A step that a thread of the coordinator can make. -/
def aptStep (y : Step) : Nat :=
  match y.label with
  | .handle id a _ => if (y.before.find id).any (·.apt a) then 1 else 0
  | .poll => if y.before.acceptor matches .looping _ then 1 else 0
  | .accept _ => if y.before.acceptor matches .accepting _ then 1 else 0
  | _ => 0

section

variable {finished : Bool} {phase : Phase} {sent : List Frame}

theorem stage_quiet {g : Governor} (hfinished : finished = true → phase = .closed)
    (hasks : Handler.asks s.options ⟨id, phase, sent, finished⟩ a = none) :
    (Handler.quiet true g ⟨id, phase, sent, finished⟩ a).handler.stage +
      (if Handler.apt ⟨id, phase, sent, finished⟩ a then 1 else 0) ≤ Handler.stage ⟨id, phase, sent, finished⟩ := by
  cases finished with
  | true =>
      obtain rfl := hfinished rfl
      cases a <;> exact Nat.le_refl _
  | false =>
      cases phase with
      | fresh =>
          cases a with
          | receive frame sends order wall =>
              unfold Handler.quiet
              dsimp only
              unfold Handler.greeted
              split
              · exact Nat.le_of_ble_eq_true rfl
              · rename_i hello _
                show (if _ then 10 else 8) + 1 ≤ 11
                split <;> omega
          | hangUp => exact Nat.le_of_ble_eq_true rfl
          | proceed | finish => exact Nat.le_refl _
      | greeting hello adopt =>
          cases a with
          | proceed sends => cases adopt <;> exact Nat.le_refl _
          | receive | hangUp | finish => exact Nat.le_refl _
      | registering hello adopt epoch =>
          cases a with
          | proceed sends => cases adopt <;> cases hasks
          | receive | hangUp | finish => exact Nat.le_refl _
      | welcoming hello reading response =>
          cases a with
          | proceed sends =>
              cases reading with
              | epoch | policyGeneration | evidenceGenerations => exact Nat.le_refl _
              | publisherSequence =>
                  cases sends with
                  | true => exact Nat.le_refl _
                  | false => exact Nat.le_of_ble_eq_true rfl
          | receive | hangUp | finish => exact Nat.le_refl _
      | serving frames => cases a <;> exact Nat.le_refl _
      | receiving frames =>
          cases a with
          | receive => cases hasks
          | hangUp => exact Nat.le_of_ble_eq_true rfl
          | proceed | finish => exact Nat.le_refl _
      | closed => cases a <;> exact Nat.le_refl _

/-- A handler that has replied is at the flag, or has left. -/
theorem stage_answered {frames : UInt64} {reply : Frame} {sends : Bool} :
    (Handler.answered ⟨id, phase, sent, finished⟩ frames reply sends).handler.stage ≤ 2 := by
  have hstage {phase : Phase} {sent : List Frame} (hphase : phase.stage ≤ 2) :
      Handler.stage ⟨id, phase, sent, finished⟩ ≤ 2 := by
    cases finished with
    | true => exact Nat.zero_le _
    | false => exact hphase
  unfold Handler.answered
  split
  · exact hstage (Nat.le_succ _)
  split
  · exact hstage (Nat.le_succ _)
  · refine hstage ?_
    cases sends with
    | true => exact Nat.le_refl _
    | false => exact Nat.le_succ _

theorem stage_registered {hello : HelloRequest} {adopt : Bool} {epoch : FabricEpoch} {status : Status} :
    (Handler.registered ⟨id, phase, sent, false⟩ hello adopt status).handler.stage + 1 ≤
      (Phase.registering hello adopt epoch).stage := by
  unfold Handler.registered
  cases adopt with
  | true =>
      split
      · exact Nat.le_refl _
      split
      · exact Nat.le_of_ble_eq_true rfl
      · exact Nat.le_of_ble_eq_true rfl
  | false =>
      split
      next hadopted => simp at hadopted
      split
      · exact Nat.le_of_ble_eq_true rfl
      · exact Nat.le_refl _

end

theorem Phase.stage_pos (phase : Phase) : 1 ≤ phase.stage := by
  unfold Phase.stage
  split <;> try split
  all_goals omega

theorem stage_le (h : Handler) : h.stage ≤ 11 := by
  unfold Handler.stage Phase.stage
  split
  · exact Nat.zero_le _
  · split <;> try split
    all_goals omega

/-- A handler that can make a step is not at its end. -/
theorem apt_le_stage (hfinished : h.finished = true → h.phase = .closed) :
    (if h.apt a then 1 else 0) ≤ h.stage := by
  obtain ⟨id, phase, sent, finished⟩ := h
  cases finished with
  | true =>
      obtain rfl : phase = .closed := hfinished rfl
      cases a <;> exact Nat.le_refl _
  | false =>
      have hpos := phase.stage_pos
      show _ ≤ phase.stage
      split <;> omega

/-- There is always a next step. -/
theorem exists_apt (hgoing : h.finished = false) : ∃ a, h.apt a = true := by
  unfold Handler.apt
  cases h.phase with
  | fresh | receiving => exact ⟨.hangUp, rfl⟩
  | greeting | registering | welcoming | serving => exact ⟨.proceed true, rfl⟩
  | closed => exact ⟨.finish, by simp [hgoing]⟩

/-- **A handler** that makes its next step is nearer to its end. -/
theorem Turned.stage (h' : Turned s h a fates turn system) (hstop : s.stopRequested = true)
    (hfinished : h.finished = true → h.phase = .closed) :
    turn.handler.stage + (if h.apt a then 1 else 0) ≤ h.stage := by
  obtain ⟨id, phase, sent, finished⟩ := h
  have hgoing (hphase : phase ≠ .closed) : finished = false := by
    cases finished with
    | true => exact absurd (hfinished rfl) hphase
    | false => rfl
  have happ : (if Handler.apt ⟨id, phase, sent, finished⟩ a then 1 else 0) ≤ 1 := by split <;> omega
  have hserving {frames : UInt64} {reply : Frame} {sends : Bool} (hphase : phase = .receiving frames) :
      (Handler.answered ⟨id, phase, sent, finished⟩ (frames + 1) reply sends).handler.stage +
        (if Handler.apt ⟨id, phase, sent, finished⟩ a then 1 else 0) ≤ Handler.stage ⟨id, phase, sent, finished⟩ := by
    refine Nat.le_trans (Nat.add_le_add stage_answered happ) ?_
    rw [hgoing (by simp [hphase]), hphase]
    exact Nat.le_refl _
  cases h' with
  | quiet hasks =>
      rw [hstop]
      exact stage_quiet hfinished hasks
  | answered hasks =>
      rename_i reply
      generalize hr : Except.error reply = r at hasks
      cases Handler.asks_cases hasks with
      | serving hphase =>
          dsimp only at hphase
          subst hphase
          exact hserving rfl
      | registering => cases hr
  | called hasks hreply =>
      rename_i c reply
      generalize hr : Except.ok c = r at hasks
      cases Handler.asks_cases hasks with
      | serving hphase =>
          dsimp only at hphase
          subst hphase
          exact hserving rfl
      | registering hphase =>
          dsimp only at hphase
          subst hphase
          obtain rfl := Except.ok.inj hr
          obtain ⟨status, rfl⟩ := System.yielded registration_status hreply
          obtain rfl := hgoing nofun
          rename_i epoch _
          exact @stage_registered id _ sent _ _ epoch status

/-! ## What a coordinator still has before it -/

/-- One handler in place of another. -/
theorem sum_put {weight : Handler → Nat} {h' : Handler} {n : Nat} (hs : s.Sound) (hmem : h ∈ s.handlers)
    (hid : h'.id = h.id) (hweight : weight h' + n ≤ weight h) :
    ((s.put h').handlers.map weight).sum + n ≤ (s.handlers.map weight).sum := by
  obtain ⟨us, vs, hsplit⟩ := List.append_of_mem hmem
  have hdistinct := hs.distinct
  rw [hsplit, List.map_append, List.map_cons, List.nodup_middle, List.nodup_cons, ← List.map_append] at hdistinct
  have hother {l : List Handler} (hl : ∀ x ∈ l, x ∈ us ++ vs) :
      l.map (fun x => weight (if x.id = h'.id then h' else x)) = l.map weight := by
    refine List.map_congr_left fun x hx => ?_
    have hne : x.id ≠ h'.id := fun heq => hdistinct.1 (List.mem_map.mpr ⟨x, hl x hx, heq.trans hid⟩)
    rw [if_neg hne]
  have hput : (s.put h').handlers.map weight = us.map weight ++ weight h' :: vs.map weight := by
    rw [put, List.map_map]
    simp only [Function.comp_def]
    rw [hsplit, List.map_append, List.map_cons, hother fun x hx => by simp [hx], hother fun x hx => by simp [hx],
      if_pos hid.symm]
  rw [hput, hsplit, List.map_append, List.map_cons, List.sum_append, List.sum_append, List.sum_cons, List.sum_cons]
  omega

/-- A step of a handler that pays for it, also where the process ends with it. -/
theorem Sound.weight_dispatch (hs : s.Sound) {weight : Handler → Nat} {n : Nat}
    (hnone : s.find id = none → n = 0) (hcrash : ∀ h, s.find id = some h → n ≤ weight h)
    (hturn : ∀ h turn system, s.find id = some h → Turned s h a fates turn system →
      weight turn.handler + n ≤ weight h) :
    ((s.dispatch id a fates).handlers.map weight).sum + n ≤ (s.handlers.map weight).sum := by
  cases hfind : s.find id with
  | none =>
      rw [dispatch_none hfind, hnone hfind]
      exact Nat.le_refl _
  | some h =>
      obtain ⟨hmem, _⟩ := find_eq_some hfind
      rcases @dispatch_turned s fates id a h hfind with ⟨disk, hboot⟩ | ⟨turn, system, hturned, hstep⟩
      · rw [hboot]
        have hone : weight h ≤ (s.handlers.map weight).sum := List.single_le_sum (fun _ _ => Nat.zero_le _) _
          (List.mem_map.mpr ⟨h, hmem, rfl⟩)
        exact Nat.le_trans (Nat.le_of_eq (Nat.zero_add _)) (Nat.le_trans (hcrash h hfind) hone)
      · rw [hstep]
        exact sum_put hs hmem hturned.keeps.id (hturn h turn system hfind hturned)

/-- No other step adds anything, once the stop was requested. -/
theorem weight_quiet {weight : Handler → Nat} (hstop : s.stopRequested = true)
    (he : ∀ id a fates, e ≠ .handle id a fates) :
    ((s.step e).handlers.map weight).sum ≤ (s.handlers.map weight).sum := by
  have hcases := step_cases s e
  generalize s.step e = t at hcases
  cases hcases with
  | kept | begun | moved | stopping => exact Nat.le_refl _
  | rebooted | closed => exact Nat.zero_le _
  | reaped => exact (List.filter_sublist.map _).sum_le_sum fun _ _ => Nat.zero_le _
  | admitted _ hgoing => exact absurd hstop (by simp [hgoing])
  | turned => exact absurd rfl (he _ _ _)

/-- **A step** after the stop was requested is paid for. -/
theorem Sound.due_step (hs : s.Sound) (hstop : s.stopRequested = true) (e : Event) :
    (s.step e).due + handlerCalls ⟨s, e⟩ ≤ s.due := by
  cases e with
  | handle id a fates =>
      refine hs.weight_dispatch (fun hfind => ?_) (fun h hfind => handlerCalls_le hfind)
        fun h turn system hfind hturned => hturned.due hstop hfind
      show (s.calls (.handle id a fates)).length = 0
      rw [calls, hfind]
      rfl
  | start | poll | accept | requestStop | close | crash =>
      refine weight_quiet hstop fun _ _ _ heq => ?_
      cases heq

/-- The threads of a coordinator. -/
def Acceptor.stage : Acceptor → Nat
  | .looping _ | .accepting _ => 1
  | .idle | .ended => 0

def stage (s : Coordinator) : Nat := (s.handlers.map (·.stage)).sum + s.acceptor.stage

/-- It is running, and has been told to stop. -/
structure Stopping (s : Coordinator) : Prop where
  requested : s.stopRequested = true
  running : s.acceptor ≠ .idle

theorem acceptor_dispatch (h : (s.dispatch id a fates).acceptor ≠ .idle) :
    (s.dispatch id a fates).acceptor = s.acceptor := by
  cases hfind : s.find id with
  | none => rw [dispatch_none hfind]
  | some x =>
      rcases @dispatch_turned s fates id a x hfind with ⟨disk, hboot⟩ | ⟨turn, system, _, hstep⟩
      · rw [hboot] at h
        exact absurd rfl h
      · rw [hstep]
        rfl

theorem acceptor_close (hjoined : s.Joined) : (s.close fates).acceptor = .idle := by
  unfold close
  rw [if_pos hjoined]
  have hran := @close_called fates { s with acceptor := .idle, handlers := [] }
  generalize { s with acceptor := .idle, handlers := [] }.run fates _ _ = t at hran
  cases hran with
  | crashed => rfl
  | returned => rfl

/-- **A step** that a thread can make brings the coordinator nearer to its end, and
no step takes it away from there. -/
theorem Stopping.stage_step (h : s.Stopping) (hs : s.Sound) (h' : (s.step e).Stopping) :
    (s.step e).stage + aptStep ⟨s, e⟩ ≤ s.stage := by
  have hsame (hstep : s.step e = s) (hapt : aptStep ⟨s, e⟩ = 0) : (s.step e).stage + aptStep ⟨s, e⟩ ≤ s.stage := by
    rw [hstep, hapt]
    exact Nat.le_refl _
  cases e with
  | start options policy listens fates closeFates =>
      have hstart : s.start options policy listens fates closeFates = s := by
        unfold start
        rw [if_pos h.running]
      exact hsame hstart rfl
  | poll =>
      have hpoll : s.poll.handlers = s.handlers ∧
          s.poll.acceptor.stage + (if s.acceptor matches .looping _ then 1 else 0) ≤ s.acceptor.stage := by
        unfold poll
        cases hacceptor : s.acceptor with
        | looping failures => simp [h.requested, Acceptor.stage]
        | idle | accepting _ | ended => simp [hacceptor]
      show (s.poll.handlers.map (·.stage)).sum + s.poll.acceptor.stage + _ ≤ _
      rw [hpoll.1, Nat.add_assoc]
      exact Nat.add_le_add_left hpoll.2 _
  | accept ok =>
      have haccept : (s.accept ok).handlers = s.handlers ∧
          (s.accept ok).acceptor.stage + (if s.acceptor matches .accepting _ then 1 else 0) ≤ s.acceptor.stage := by
        unfold accept
        cases hacceptor : s.acceptor with
        | accepting failures => cases ok <;> simp [h.requested, Acceptor.stage]
        | idle | looping _ | ended => simp [hacceptor]
      show ((s.accept ok).handlers.map (·.stage)).sum + (s.accept ok).acceptor.stage + _ ≤ _
      rw [haccept.1, Nat.add_assoc]
      exact Nat.add_le_add_left haccept.2 _
  | handle id a fates =>
      have hacceptor : (s.dispatch id a fates).acceptor = s.acceptor := acceptor_dispatch h'.running
      have hapt : aptStep ⟨s, .handle id a fates⟩ = if (s.find id).any (·.apt a) then 1 else 0 := rfl
      have hhandlers : ((s.dispatch id a fates).handlers.map (·.stage)).sum + aptStep ⟨s, .handle id a fates⟩ ≤
          (s.handlers.map (·.stage)).sum := by
        refine hs.weight_dispatch (fun hfind => ?_) (fun x hfind => ?_) fun x turn system hfind hturned => ?_
        · rw [hapt, hfind]
          rfl
        · rw [hapt, hfind]
          exact apt_le_stage (hs.finished x (find_eq_some hfind).1)
        · rw [hapt, hfind]
          exact hturned.stage h.requested (hs.finished x (find_eq_some hfind).1)
      show ((s.dispatch id a fates).handlers.map (·.stage)).sum + (s.dispatch id a fates).acceptor.stage + _ ≤ _
      rw [hacceptor, Nat.add_right_comm]
      exact Nat.add_le_add_right hhandlers _
  | requestStop => exact Nat.le_refl _
  | close fates =>
      have hclose : s.close fates = s := if_neg fun hjoined => h'.running (acceptor_close hjoined)
      exact hsame hclose rfl
  | crash => exact absurd rfl h'.running

theorem Sound.find_mem (hs : s.Sound) (hmem : h ∈ s.handlers) : s.find h.id = some h := by
  cases hfind : s.find h.id with
  | none => exact absurd (List.find?_eq_none.mp hfind h hmem) (by simp)
  | some x =>
      obtain ⟨hx, hid⟩ := find_eq_some hfind
      rw [List.inj_on_of_nodup_map hs.distinct hx hmem hid]

/-- Where no thread can make a step, all of them have ended. -/
theorem Stopping.joined (h : s.Stopping) (hs : s.Sound) (hnone : ∀ e, aptStep ⟨s, e⟩ = 0) : s.Joined := by
  refine ⟨h.requested, .inr ?_, fun x hx => ?_⟩
  · have hpoll := hnone .poll
    have haccept := hnone (.accept true)
    cases hacceptor : s.acceptor with
    | idle => exact absurd hacceptor h.running
    | looping failures => simp [aptStep, hacceptor] at hpoll
    | accepting failures => simp [aptStep, hacceptor] at haccept
    | ended => rfl
  · cases hfinished : x.finished with
    | true => rfl
    | false =>
        obtain ⟨a, ha⟩ := exists_apt hfinished
        have hhandle := hnone (.handle x.id a [])
        simp [aptStep, hs.find_mem hx, ha] at hhandle

/-- No connection is admitted any more. -/
theorem ids_step (hstop : s.stopRequested = true) (e : Event) :
    ((s.step e).handlers.map (·.id)).Sublist (s.handlers.map (·.id)) := by
  have hcases := step_cases s e
  generalize s.step e = t at hcases
  cases hcases with
  | kept | begun | moved | stopping => exact List.Sublist.refl _
  | rebooted | closed => exact List.nil_sublist _
  | reaped => exact List.filter_sublist.map _
  | admitted _ hgoing => exact absurd hstop (by simp [hgoing])
  | turned =>
      rename_i turn system hfind hturned
      have hids := @ids_put s turn.handler
      show ((s.put turn.handler).handlers.map (·.id)).Sublist _
      rw [hids]

/-! ## A sample that stops -/

/-- The sample coordinator, when it has been told to stop. -/
def sampleStopping (system : System) (g : Governor) : Coordinator :=
  { listening system [welcomed g] 1 with stopRequested := true }

theorem sample_stopping : ∃ disk, (helloEvents ++ welcomeEvents ++ [Event.requestStop]).foldl step
    (boot Governor.emptyDisk 0) = sampleStopping ⟨Governor.staffed (Governor.started samplePolicy), disk⟩
      (Governor.staffed (Governor.started samplePolicy)) := by
  obtain ⟨disk, hrun⟩ := sample_welcomed
  refine ⟨disk, ?_⟩
  rw [List.foldl_append, hrun]
  rfl

/-- Its peer may hang up. -/
theorem stopping_hangUp (system : System) (g : Governor) :
    ((sampleStopping system g).step (.handle 0 .hangUp [])).Stopping := ⟨rfl, nofun⟩

/-! ## In every history -/

end

end Coordinator

end Oversub
